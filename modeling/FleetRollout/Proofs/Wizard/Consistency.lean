import FleetRollout.Proofs.Wizard.History
import FleetRollout.Proofs.Wizard.Settling

/-! After every operation the derived fields of the selection, the pending ticket and the group
counts are in line with the target and the fleet. -/
namespace FleetRollout.Wizard

/-- Derived fields, ticket and counts are those of the target and the fleet as they are now. -/
structure InLine (w : Wizard) : Prop where
  ids : w.selection.resolvedDeviceIds = w.selection.target.ids
  devices : w.selection.resolvedDevices =
    w.selection.target.ids.map (DeviceRecord.join · w.fleet.devices)
  filterId : w.selection.resolvedFilterId = w.fleet.filterId? w.selection.target
  count : ∀ n, w.fleet.count? w.selection.target = some n → w.selection.resolvedDeviceCount = n
  pending : w.pending.map Ticket.group = w.fleet.missing? w.selection.target
  latest : ∀ ticket, w.pending = some ticket → ticket.number = w.issued
  known : ∀ group n, w.fleet.counts.get? group = some n → w.fleet.groups.contains group = true

variable {w w' : Wizard}

theorem new_inLine (options : Options) : InLine (new options) where
  ids := rfl
  devices := rfl
  filterId := rfl
  count := nofun
  pending := rfl
  latest := nofun
  known := nofun

/-- Settling needs only what it does not write itself: the number of the ticket, and counts of known
groups. -/
theorem settled_inLine (latest : ∀ ticket, w.pending = some ticket → ticket.number = w.issued)
    (known : ∀ group n, w.fleet.counts.get? group = some n → w.fleet.groups.contains group = true) :
    InLine w.settled where
  ids := by simp [Selection.resolve_selection]
  devices := by simp [Selection.resolve_selection]
  filterId := by simp [Selection.resolve_selection]
  count n counted := by
    simp only [settled_selection, settled_fleet, Selection.resolve_target] at counted ⊢
    simp [Selection.resolve_selection, counted]
  pending := by simp [settled_pending_group]
  latest ticket pending := by
    obtain ⟨kept | dropped, issued⟩ | ⟨group, fresh, issued⟩ := settled_ticket w
    · rw [issued]
      exact latest ticket (kept.symm.trans pending)
    · rw [dropped] at pending
      contradiction
    · rw [fresh] at pending
      obtain rfl := Option.some.inj pending
      exact issued.symm
  known := by simpa using known

/-- A ticket is pending for the selected group, which is known and has no count. -/
theorem InLine.target_of_pending (inLine : InLine w) {ticket : Ticket}
    (pending : w.pending = some ticket) :
    w.selection.target = .group ticket.group ∧ w.fleet.groups.contains ticket.group = true ∧
      w.fleet.counts.get? ticket.group = none := by
  have missing := inLine.pending
  rw [pending] at missing
  exact Fleet.missing?_eq_some.mp missing.symm

theorem InLine.change (inLine : InLine w) (change : Change w w') : InLine w' := by
  cases change with
  | unchanged => exact inLine
  | edited selection editable same =>
    obtain ⟨target, count, ids, devices, filterId⟩ := same
    constructor
    · simpa only [ids, target] using inLine.ids
    · simpa only [devices, target] using inLine.devices
    · simpa only [filterId, target] using inLine.filterId
    · simpa only [count, target] using inLine.count
    · simpa only [target] using inLine.pending
    · exact inLine.latest
    · exact inLine.known
  | targeted target editable available => exact settled_inLine inLine.latest inLine.known
  | accepted total => exact settled_inLine inLine.latest inLine.known
  | devices known => exact settled_inLine inLine.latest inLine.known
  | groups known =>
    refine settled_inLine inLine.latest fun group n counted => ?_
    rw [GroupCounts.get?_retain] at counted
    split at counted
    · assumption
    · contradiction
  | counted ticket total current =>
    refine settled_inLine nofun fun group n counted => ?_
    -- The group waited for is a known one; of others the write tells nothing new.
    by_cases same : ticket.group = group
    · rw [← same]
      exact (inLine.target_of_pending (isCurrent_eq_true.mp current).1).2.1
    · exact inLine.known group n (GroupCounts.get?_of_get?_insert counted same)
  | restarted lifecycle releases accepted groups hasDelta opening =>
    refine settled_inLine nofun fun group n counted => ?_
    simp [restarted] at counted
  -- Closing does not settle: a new selection has nothing derived, and no ticket stays.
  | closed lifecycle closing =>
    constructor
    · rfl
    · rfl
    · rfl
    · nofun
    · rfl
    · nofun
    · exact inLine.known
  | processed lifecycle guard =>
    exact ⟨inLine.ids, inLine.devices, inLine.filterId, inLine.count, inLine.pending,
      inLine.latest, inLine.known⟩

theorem Reachable.inLine (reachable : Reachable w) : InLine w :=
  reachable.invariant new_inLine InLine.change

theorem InLine.pending_eq_none (inLine : InLine w)
    (missing : w.fleet.missing? w.selection.target = none) : w.pending = none := by
  have pending := inLine.pending
  rw [missing] at pending
  exact Option.map_eq_none_iff.mp pending

theorem InLine.pending_of_unmeasured (inLine : InLine w)
    (unmeasured : w.fleet.measures w.selection.target = false) : w.pending = none := by
  refine inLine.pending_eq_none ?_
  cases missing : w.fleet.missing? w.selection.target with
  | none => rfl
  | some group =>
    rw [Fleet.measures_iff.mpr (.inr ⟨group, missing⟩)] at unmeasured
    contradiction

/-- The count of a known group is missing only while it is waited for, with the latest ticket. -/
theorem InLine.pending_of_missing (inLine : InLine w) {group : String}
    (missing : w.fleet.missing? w.selection.target = some group) :
    w.pending = some ⟨group, w.issued⟩ := by
  have pending := inLine.pending
  rw [missing] at pending
  obtain ⟨ticket, waiting, rfl⟩ := Option.map_eq_some_iff.mp pending
  rw [waiting, ← inLine.latest ticket waiting]

/-- What is derived from a group: its filter, and its count or the wait for it. -/
theorem InLine.group_filter_and_count (inLine : InLine w) {name : String}
    (target : w.selection.target = .group name) :
    match w.fleet.groups.get? name with
    | some info =>
      w.selection.resolvedFilterId = info.filterId ∧
        match w.fleet.counts.get? name with
        | some n => w.selection.resolvedDeviceCount = n ∧ w.pending = none
        | none => w.pending = some ⟨name, w.issued⟩
    | none => w.selection.resolvedFilterId = none ∧ w.pending = none := by
  have filterId := inLine.filterId
  rw [target, Fleet.filterId?] at filterId
  cases known : w.fleet.groups.get? name with
  | none =>
    rw [known] at filterId
    refine ⟨filterId, inLine.pending_eq_none ?_⟩
    simp [target, Fleet.missing?, Dict.contains, known]
  | some info =>
    rw [known] at filterId
    refine ⟨filterId, ?_⟩
    have contained : w.fleet.groups.contains name = true := Dict.contains_iff.mpr ⟨info, known⟩
    cases counted : w.fleet.counts.get? name with
    | none =>
      have missing := Fleet.missing?_eq_some.mpr ⟨target, contained, counted⟩
      exact inLine.pending_of_missing missing
    | some n =>
      constructor
      · refine inLine.count n ?_
        rw [target, Fleet.count?, if_pos contained, counted]
      · refine inLine.pending_eq_none ?_
        simp [target, Fleet.missing?, counted]

/-- Ids, records, count, filter and ticket are what the fleet, as it is known now, tells of the
target. -/
def FollowsTarget (w : Wizard) : Prop :=
  match w.selection.target with
  | .devices (first :: rest) =>
    w.selection.resolvedDeviceIds = first :: rest ∧
      w.selection.resolvedDevices = (first :: rest).map (DeviceRecord.join · w.fleet.devices) ∧
      w.selection.resolvedDeviceCount = .ofNat (first :: rest).length ∧
      w.selection.resolvedFilterId = none ∧ w.pending = none
  | .allDevices =>
    w.selection.resolvedDeviceIds = [] ∧ w.selection.resolvedDevices = [] ∧
      w.selection.resolvedDeviceCount = w.fleet.accepted ∧
      w.selection.resolvedFilterId = none ∧ w.pending = none
  | .group name =>
    w.selection.resolvedDeviceIds = [] ∧ w.selection.resolvedDevices = [] ∧
      match w.fleet.groups.get? name with
      | some info =>
        w.selection.resolvedFilterId = info.filterId ∧
          match w.fleet.counts.get? name with
          | some n => w.selection.resolvedDeviceCount = n ∧ w.pending = none
          | none => w.pending = some ⟨name, w.issued⟩
      | none => w.selection.resolvedFilterId = none ∧ w.pending = none
  | .unselected | .devices [] | .filter _ =>
    w.selection.resolvedDeviceIds = [] ∧ w.selection.resolvedDevices = [] ∧
      w.selection.resolvedFilterId = none ∧ w.pending = none

/-- Whatever was done and answered before, derived fields follow the target; a count is waited for
exactly if the target is a known group without one. -/
theorem derived_fields_follow_target (reachable : Reachable w) : FollowsTarget w := by
  unfold FollowsTarget
  have inLine := reachable.inLine
  obtain ⟨ids, devices, filterId, count, -, -, -⟩ := reachable.inLine
  split <;> rename_i target <;> rw [target] at ids devices filterId count
  · exact ⟨ids, devices, count _ rfl, filterId, inLine.pending_eq_none (by rw [target]; rfl)⟩
  · exact ⟨ids, devices, count _ rfl, filterId, inLine.pending_eq_none (by rw [target]; rfl)⟩
  · exact ⟨ids, devices, inLine.group_filter_and_count target⟩
  all_goals exact ⟨ids, devices, filterId, inLine.pending_eq_none (by rw [target]; rfl)⟩

/-- A wizard with room for one count: that of a second group took the place of the first one's,
before the first group was picked again. -/
@[irreducible] def evicted : Wizard :=
  World.play
    { api := { groups := ["east", "west"], groupTotals := .ofList [("east", 4), ("west", 9)] } }
    (new { groupCountCapacity := 1 })
    [.open, .selectTarget (.group "east"), .refreshCount, .selectTarget (.group "west"),
      .refreshCount, .selectTarget (.group "east")]

theorem derived_fields_follow_target_evicted :
    Reachable evicted ∧ evicted.selection.target = .group "east" ∧
      evicted.selection.resolvedDeviceCount = 9 ∧ evicted.pending = some ⟨"east", 3⟩ := by
  have reachable : Reachable evicted := by
    unfold evicted
    exact World.reachable_play _ _ _
  have target : evicted.selection.target = .group "east" := by decide +kernel
  have known : evicted.fleet.groups.get? "east" = some { name := "east" } := by decide +kernel
  have evicted_count : evicted.fleet.counts.get? "east" = none := by decide +kernel
  have issued : evicted.issued = 3 := by decide +kernel
  have follows : FollowsTarget evicted := derived_fields_follow_target reachable
  simp only [FollowsTarget, target, known, evicted_count, issued] at follows
  exact ⟨reachable, target, by decide +kernel, follows.2.2.2⟩

theorem settled_count (w : Wizard) :
    w.settled.selection.resolvedDeviceCount = w.selection.resolvedDeviceCount ∨
      w.settled.fleet.count? w.settled.selection.target =
        some w.settled.selection.resolvedDeviceCount := by
  rw [settled_selection, settled_fleet, Selection.resolve_target, Selection.resolve_selection]
  cases w.fleet.count? w.selection.target with
  | none => exact .inl rfl
  | some n => exact .inr rfl

/-- A change keeps the device count, clears it, or takes that of the target. -/
theorem Change.count (change : Change w w') :
    w'.selection.resolvedDeviceCount = w.selection.resolvedDeviceCount ∨
      w'.selection.resolvedDeviceCount = 0 ∨
      w'.fleet.count? w'.selection.target = some w'.selection.resolvedDeviceCount := by
  cases change with
  | unchanged => exact .inl rfl
  | edited selection editable same => exact .inl same.count
  | targeted target =>
    obtain kept | known := settled_count { w with selection := w.selection.setTarget target }
    · exact .inl (by simpa using kept)
    · exact .inr (.inr known)
  | accepted total =>
    exact (settled_count { w with fleet := { w.fleet with accepted := total } }).imp_right .inr
  | devices known =>
    exact (settled_count { w with fleet := { w.fleet with devices := known } }).imp_right .inr
  | groups known => exact (settled_count _).imp_right .inr
  | counted ticket total => exact (settled_count (w.withCount ticket.group total)).imp_right .inr
  | restarted lifecycle releases accepted groups hasDelta =>
    exact .inr (settled_count (w.restarted lifecycle releases accepted groups hasDelta))
  | closed => exact .inr (.inl rfl)
  | processed => exact .inl rfl

/-- A device count was at some time that of the target then selected, as it was known then. -/
theorem History.count_origin {options : Options} {turns : List Turn}
    (history : History (new options) turns w) (counted : 0 < w.selection.resolvedDeviceCount) :
    ∃ earlier v later, turns = earlier ++ later ∧ History (new options) earlier v ∧
      History v later w ∧
      v.fleet.count? v.selection.target = some w.selection.resolvedDeviceCount := by
  induction history with
  | start => contradiction
  | @next turns w w' move before step ih =>
    obtain kept | cleared | known := step.change.count
    · rw [kept] at counted ⊢
      obtain ⟨earlier, v, later, rfl, first, rest, origin⟩ := ih counted
      exact ⟨earlier, v, later ++ [⟨w, move, w'⟩], by simp, first, rest.next step, origin⟩
    · rw [cleared] at counted
      contradiction
    · exact ⟨_, w', [], by simp, before.next step, .start, known⟩

end FleetRollout.Wizard
