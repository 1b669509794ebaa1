import FleetRollout.Proofs.Wizard.Sending

/-! Which device count the phases of a submittable wizard were checked against. It is that of the
target as long as the target has one; saved filters, unknown groups and no target at all have none,
and there it is the one that an earlier target left behind. -/
namespace FleetRollout.Wizard
variable {w : Wizard} {now : Instant} {phases : List Phase}

theorem pending_of_isSubmittable (phased : w.selection.rollout? = some phases)
    (submittable : w.isSubmittable now = true) : w.pending = none := by
  obtain ⟨_, _, counted, _⟩ := isSubmittable_iff.mp submittable
  have isPhased : w.selection.isPhased = true := by simp [Selection.isPhased, phased]
  simpa [awaitsCount, isPhased] using counted

/-- Phases are valid only for a device count, and with that the selection counts as complete. -/
theorem selection_isSubmittable_iff_of_phased (phased : w.selection.rollout? = some phases) :
    w.selection.isSubmittable now = true ↔
      w.selection.release.isSome = true ∧
        Rollout.isValid phases w.selection.resolvedDeviceCount now = true := by
  obtain ⟨chosen, nonempty⟩ := Selection.rollout?_eq_some.mp phased
  rw [Selection.isSubmittable_iff, chosen, Option.getD_some]
  constructor
  · rintro ⟨released, _, valid⟩
    exact ⟨released, valid⟩
  · rintro ⟨released, valid⟩
    exact ⟨released, .inl (Rollout.pos_of_isValid nonempty valid), valid⟩

theorem pos_of_isSubmittable (phased : w.selection.rollout? = some phases)
    (submittable : w.isSubmittable now = true) : 0 < w.selection.resolvedDeviceCount := by
  have complete := (isSubmittable_iff.mp submittable).2.2.2
  have valid := ((selection_isSubmittable_iff_of_phased phased).mp complete).2
  exact Rollout.pos_of_isValid (Selection.rollout?_eq_some.mp phased).2 valid

/-- A submittable wizard in phases has the count of its target exactly if the target has one. -/
theorem InLine.count_iff_measures (inLine : InLine w) (phased : w.selection.rollout? = some phases)
    (submittable : w.isSubmittable now = true) :
    w.fleet.count? w.selection.target = some w.selection.resolvedDeviceCount ↔
      w.fleet.measures w.selection.target = true := by
  rw [Fleet.measures_iff]
  constructor
  · intro counted
    exact .inl ⟨_, counted⟩
  · rintro (⟨n, counted⟩ | ⟨group, missing⟩)
    · rw [counted, inLine.count n counted]
    · have waits := inLine.pending_of_missing missing
      rw [pending_of_isSubmittable phased submittable] at waits
      contradiction

theorem InLine.isSubmittable_iff_of_unmeasured (inLine : InLine w)
    (phased : w.selection.rollout? = some phases)
    (unmeasured : w.fleet.measures w.selection.target = false) :
    w.isSubmittable now = true ↔
      w.lifecycle.isEditable = true ∧ w.guard.inFlight = false ∧
        w.selection.release.isSome = true ∧
        Rollout.isValid phases w.selection.resolvedDeviceCount now = true := by
  have counted := inLine.awaitsCount_of_unmeasured unmeasured
  rw [isSubmittable_iff, selection_isSubmittable_iff_of_phased phased]
  simp [counted]

/-- Whatever happened before, the phases of a submittable wizard were checked against the count of
its target exactly if the target has one. Any other target is submittable with phases that suit the
count that is there, and that count was once the one of some target selected earlier. -/
theorem phases_checked_against_target_or_leftover {options : Options} {turns : List Turn}
    (history : History (new options) turns w) (phased : w.selection.rollout? = some phases)
    (now : Instant) :
    (w.isSubmittable now = true →
      (w.fleet.count? w.selection.target = some w.selection.resolvedDeviceCount ↔
        w.fleet.measures w.selection.target = true)) ∧
    (w.fleet.measures w.selection.target = false →
      (w.isSubmittable now = true ↔
        w.lifecycle.isEditable = true ∧ w.guard.inFlight = false ∧
          w.selection.release.isSome = true ∧
          Rollout.isValid phases w.selection.resolvedDeviceCount now = true)) ∧
    (w.isSubmittable now = true →
      ∃ earlier v later, turns = earlier ++ later ∧ History (new options) earlier v ∧
        History v later w ∧
        v.fleet.count? v.selection.target = some w.selection.resolvedDeviceCount) := by
  have inLine : InLine w := Reachable.inLine ⟨options, turns, history⟩
  refine ⟨inLine.count_iff_measures phased, inLine.isSubmittable_iff_of_unmeasured phased, ?_⟩
  intro submittable
  exact history.count_origin (pos_of_isSubmittable phased submittable)

def halves : List Phase := [{ batchSize := some 50, delay := some (.hours 1) }, {}]

@[irreducible] def phasedToAll : Wizard :=
  World.play { api := { accepted := 7, releases := ["v2"] } } (new { canSchedule := true })
    [.open, .selectRelease "v2", .selectTarget .allDevices, .setPhases (some halves)]

theorem phases_checked_against_target_all :
    phasedToAll.isSubmittable default = true ∧
      phasedToAll.fleet.count? phasedToAll.selection.target =
        some phasedToAll.selection.resolvedDeviceCount := by
  obtain ⟨turns, history⟩ :
      ∃ turns, History (new { canSchedule := true }) turns phasedToAll := by
    unfold phasedToAll
    exact World.play_history _ _ _
  have phased : phasedToAll.selection.rollout? = some halves := by decide +kernel
  have submittable : phasedToAll.isSubmittable default = true := by decide +kernel
  have checked := (phases_checked_against_target_or_leftover history phased default).1 submittable
  exact ⟨submittable, checked.mpr (by decide +kernel)⟩

/-- A wizard in phases that went from all devices to a group that nobody knows. -/
@[irreducible] def phasedToNobody : Wizard :=
  World.play { api := { accepted := 7, releases := ["v2"] } } (new { canSchedule := true })
    [.open, .selectRelease "v2", .selectTarget .allDevices, .selectTarget (.group "nowhere"),
      .setPhases (some halves)]

theorem not_phases_checked_against_target :
    ¬ ∀ w now, Reachable w → w.selection.isPhased = true → w.isSubmittable now = true →
      w.fleet.count? w.selection.target = some w.selection.resolvedDeviceCount := by
  intro checked
  have reachable : Reachable phasedToNobody := by
    unfold phasedToNobody
    exact World.reachable_play _ _ _
  have submittable : phasedToNobody.isSubmittable default = true := by decide +kernel
  have counted := checked phasedToNobody default reachable (by decide +kernel) submittable
  have uncounted : phasedToNobody.fleet.count? phasedToNobody.selection.target = none := by
    decide +kernel
  rw [uncounted] at counted
  contradiction

end FleetRollout.Wizard
