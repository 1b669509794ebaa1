import FleetRollout.Proofs.Wizard.Effect

/-! The changes that any operation can make to a wizard, few enough for an invariant to be a case
analysis on them. -/
namespace FleetRollout

structure Selection.SameTarget (s t : Selection) : Prop where
  target : s.target = t.target
  count : s.resolvedDeviceCount = t.resolvedDeviceCount
  ids : s.resolvedDeviceIds = t.resolvedDeviceIds
  devices : s.resolvedDevices = t.resolvedDevices
  filterId : s.resolvedFilterId = t.resolvedFilterId

namespace Wizard

/-- What one operation makes of a wizard. -/
inductive Change (w : Wizard) : Wizard → Prop where
  | unchanged : Change w w
  /-- A choice other than the target. -/
  | edited (selection : Selection) (editable : w.lifecycle.isEditable)
      (same : selection.SameTarget w.selection) : Change w { w with selection := selection }
  | targeted (target : Target) (editable : w.lifecycle.isEditable)
      (available : target.mode = some .savedFilter → w.options.hasFullFiltering) :
      Change w { w with selection := w.selection.setTarget target }.settled
  | accepted (total : UInt64) :
      Change w { w with fleet := { w.fleet with accepted := total } }.settled
  | devices (known : DevicesById) :
      Change w { w with fleet := { w.fleet with devices := known } }.settled
  /-- Counts of groups that are gone are forgotten. -/
  | groups (known : Dict GroupInfo) :
      Change w { w with fleet := { w.fleet with
        groups := known, counts := w.fleet.counts.retain known.contains } }.settled
  /-- The count that was waited for has arrived. -/
  | counted (ticket : Ticket) (total : UInt64) (current : w.isCurrent ticket) :
      Change w (w.withCount ticket.group total).settled
  | restarted (lifecycle : Lifecycle) (releases : List String) (accepted : UInt64)
      (groups : Dict GroupInfo) (hasDelta : Bool)
      (opening : w.lifecycle.process .open = .ok lifecycle) :
      Change w (w.restarted lifecycle releases accepted groups hasDelta).settled
  | closed (lifecycle : Lifecycle) (closing : w.lifecycle.process .close = .ok lifecycle) :
      Change w { w with lifecycle := lifecycle, selection := {}, pending := none }
  /-- A submission, or somebody else who holds a handle on the guard. -/
  | processed (lifecycle : Lifecycle) (guard : Guard) :
      Change w { w with lifecycle := lifecycle, guard := guard }

variable {w w' : Wizard} {operation : Operation} {reply : Reply}

/-- A plain choice leaves the target and what is derived from it alone. -/
theorem Operation.choice_sameTarget {choice : Selection → Selection}
    (plain : operation.choice? = some choice) (s : Selection) : (choice s).SameTarget s := by
  cases operation with
  | setRetries | setSaveRetriesDefault | setForceInstall | setDelta | setMaxDevices
  | setUpdateControlMap =>
    obtain rfl := Option.some.inj plain
    exact ⟨rfl, rfl, rfl, rfl, rfl⟩
  | _ => contradiction

theorem Effect.change (effect : Effect w operation reply w') : Change w w' := by
  cases effect with
  | refused | notLoaded | notCounted | notRefreshed | unsent => exact .unchanged
  | opened opening => exact .restarted _ _ _ _ _ opening
  | closed closing => exact .closed _ closing
  | released editable | phased editable | rephased editable =>
    exact .edited _ editable ⟨rfl, rfl, rfl, rfl, rfl⟩
  | targeted editable available settles =>
    rw [settles]
    exact .targeted _ editable available
  | chosen editable plain => exact .edited _ editable (Operation.choice_sameTarget plain _)
  | accepted settles =>
    rw [settles]
    exact .accepted _
  | devices settles =>
    rw [settles]
    exact .devices _
  | groups settles =>
    rw [settles]
    exact .groups _
  | loaded => exact .devices _
  | counted current | refreshed current => exact .counted _ _ current
  | sent answer => cases answer <;> exact .processed _ w.guard

end Wizard
end FleetRollout
