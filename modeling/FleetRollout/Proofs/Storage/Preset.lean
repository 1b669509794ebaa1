import FleetRollout.Proofs.Storage.Remembering
import FleetRollout.Proofs.Wizard.Phasing

/-! The phases that a deployment leaves behind in the settings. Their starts are dropped, so they
can be used again exactly if it was the delays that kept them apart, and not starts of their
own. -/
namespace FleetRollout
open Rollout

namespace Wizard
variable {w : Wizard} {devices : UInt64} {phases : List Phase} {now : Instant}

/-- An open wizard that waits for nothing, with a release and so many devices picked. -/
structure Ready (w : Wizard) (devices : UInt64) : Prop where
  editable : w.lifecycle.isEditable = true
  free : w.guard.inFlight = false
  counted : w.pending = none
  released : w.selection.release.isSome = true
  devices : w.selection.resolvedDeviceCount = devices

theorem Ready.isSubmittable_iff (ready : w.Ready devices)
    (phased : w.selection.rollout? = some phases) :
    w.isSubmittable now = true ↔ isValid phases devices now = true := by
  rw [Wizard.isSubmittable_iff, selection_isSubmittable_iff_of_phased phased]
  simp [ready.editable, ready.free, ready.released, ready.devices, awaitsCount, ready.counted]

theorem Ready.usePreviousPhases (ready : w.Ready devices) (schedules : w.options.canSchedule = true)
    (saved : w.options.previousPhases = some phases) (nonempty : phases ≠ []) :
    ∃ w', w.usePreviousPhases = (.ok (), w') ∧ w'.selection.phases = some phases ∧
      w'.Ready devices := by
  have used := usePreviousPhases_eq_ok.mpr ⟨phases, saved, nonempty,
    (setPhases_edited w (some phases)).eq_ok.mpr ⟨⟨ready.editable, fun _ => schedules⟩, rfl⟩⟩
  exact ⟨_, used, rfl, ready.editable, ready.free, ready.counted, ready.released, ready.devices⟩

end Wizard

namespace Settings
variable {selection : Selection} {phases : List Phase} {devices : UInt64} {scheduled : Instant}

theorem remember_previousPhases (settings : Settings) (phased : selection.phases = some phases)
    (several : 1 < phases.length) :
    (settings.remember selection).2.previousPhases = some (phases.map Phase.unscheduled) := by
  rw [remember_eq]
  exact settings.rememberedPhases_of_several phased several

/-- Phases that were valid for some devices are remembered without their starts. Where the starts
that they get instead are in range, they are valid again, and offer a rollout to that many devices,
exactly if each phase but the last makes the next one wait. -/
theorem remembered_phases_usable_iff_delayed (settings : Settings)
    (phased : selection.phases = some phases) (several : 1 < phases.length)
    (valid : isValid phases devices scheduled = true) :
    ∃ preset, (settings.remember selection).2.previousPhases = some preset ∧
      preset = phases.map Phase.unscheduled ∧
      ∀ now, (effectiveStarts preset now).isSome = true →
        (isValid preset devices now = true ↔ ∀ phase ∈ phases.dropLast, Delays phase) ∧
        ∀ w : Wizard, w.options = (settings.remember selection).2.wizardOptions →
          settings.capabilities.canSchedule = true → w.Ready devices →
          ∃ w', w.usePreviousPhases = (.ok (), w') ∧ w'.selection.phases = some preset ∧
            (w'.isSubmittable now = true ↔ ∀ phase ∈ phases.dropLast, Delays phase) := by
  have remembered := remember_previousPhases settings phased several
  refine ⟨_, remembered, rfl, ?_⟩
  intro now inRange
  have again := isValid_unscheduled_iff valid inRange
  refine ⟨again, ?_⟩
  intro w options schedules ready
  have nonempty : phases.map Phase.unscheduled ≠ [] := by
    intro none
    simp [List.map_eq_nil_iff.mp none] at several
  obtain ⟨w', used, chosen, still⟩ := ready.usePreviousPhases
    (by rw [options, remember_eq]; exact schedules) (by rw [options]; exact remembered) nonempty
  have phased' := Selection.rollout?_eq_some.mpr ⟨chosen, nonempty⟩
  exact ⟨w', used, chosen, (still.isSubmittable_iff phased').trans again⟩

def secondDay : Instant := ⟨secondsPerDay, 0, by decide⟩

def planned : List Phase := [((Phase.ofSize 50).startingAt secondDay).withDelay (.hours 1), {}]

def phasing : Settings := { capabilities := { canSchedule := true } }

/-- A wizard of that tenant after a deployment in these phases, with a release and all of ten
devices picked. -/
@[irreducible] def replanned : Wizard :=
  Wizard.World.play { api := { accepted := 10, releases := ["v2"] } }
    (Wizard.new (phasing.remember { phases := some planned }).2.wizardOptions)
    [.open, .selectRelease "v2", .selectTarget .allDevices]

theorem remembered_phases_usable_planned :
    ∃ w', replanned.usePreviousPhases = (.ok (), w') ∧ w'.isSubmittable .epoch = true := by
  have phased : Selection.phases { phases := some planned } = some planned := rfl
  have valid : isValid planned 10 .epoch = true := by decide
  have ready : replanned.Ready 10 := by
    constructor <;> decide +kernel
  have options : replanned.options =
      (phasing.remember { phases := some planned }).2.wizardOptions := by decide +kernel
  obtain ⟨_, remembered, rfl, usable⟩ :=
    remembered_phases_usable_iff_delayed phasing phased (by decide) valid
  obtain ⟨w', used, _, submittable⟩ := (usable .epoch (by decide)).2 replanned options rfl ready
  refine ⟨w', used, submittable.mpr ?_⟩
  intro phase leading
  obtain rfl := List.mem_singleton.mp leading
  exact ⟨.hours 1, rfl, by decide⟩

def spaced : List Phase := [.ofSize 50, Phase.startingAt {} secondDay]

theorem not_remembered_phases_valid :
    ¬ ∀ (settings : Settings) (selection : Selection) (phases preset : List Phase)
      (devices : UInt64) (scheduled now : Instant), selection.phases = some phases →
      1 < phases.length → isValid phases devices scheduled = true →
      (settings.remember selection).2.previousPhases = some preset →
      (effectiveStarts preset now).isSome = true → isValid preset devices now = true := by
  intro stays
  have valid : isValid (spaced.map Phase.unscheduled) 10 .epoch = true :=
    stays {} { phases := some spaced } spaced _ 10 .epoch .epoch rfl (by decide) (by decide)
      (remember_previousPhases {} rfl (by decide)) (by decide)
  have invalid : isValid (spaced.map Phase.unscheduled) 10 .epoch = false := by decide
  rw [invalid] at valid
  contradiction

end Settings
end FleetRollout
