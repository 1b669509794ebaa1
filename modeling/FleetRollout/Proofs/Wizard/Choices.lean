import FleetRollout.Proofs.Wizard.History
import FleetRollout.Proofs.Wizard.Opening
import FleetRollout.Proofs.Wizard.Settling

/-! What was chosen for a deployment, as against what is derived from it. Only an open wizard can be
edited, and what is refused leaves no trace. -/
namespace FleetRollout

/-- A selection without what is derived from its target. -/
def Selection.chosen (s : Selection) : Selection := { s.underived with resolvedDeviceCount := 0 }

theorem Selection.target_eq_of_chosen_eq {s t : Selection} (same : s.chosen = t.chosen) :
    s.target = t.target := (Selection.mk.inj same).2.1

theorem Selection.phases_eq_of_chosen_eq {s t : Selection} (same : s.chosen = t.chosen) :
    s.phases = t.phases := (Selection.mk.inj same).2.2.2.2.2.2.1

@[simp] theorem Selection.resolve_chosen (s : Selection) (fleet : Fleet) :
    (s.resolve fleet).1.chosen = s.chosen := by
  rw [Selection.resolve_selection]
  rfl

namespace Wizard

def Operation.isEdit : Operation → Bool
  | .selectRelease _ | .selectTarget _ | .setPhases _ | .usePreviousPhases | .setRetries _
  | .setSaveRetriesDefault _ | .setForceInstall _ | .setDelta _ | .setMaxDevices _
  | .setUpdateControlMap _ => true
  | _ => false

variable {w w' : Wizard} {operation : Operation} {reply : Reply}

theorem Operation.isEdit_of_choice {choice : Selection → Selection}
    (plain : operation.choice? = some choice) : operation.isEdit = true := by
  cases operation <;> first | rfl | contradiction

theorem Effect.chosen_eq (effect : Effect w operation reply w')
    (unedited : operation.isEdit = false) (unopened : operation ≠ .open) (unclosed : operation ≠ .close) :
    w'.selection.chosen = w.selection.chosen := by
  cases effect with
  | refused | notLoaded | notCounted | notRefreshed | unsent => rfl
  | opened | closed => contradiction
  | released | targeted | phased | rephased => contradiction
  | chosen editable plain =>
    rw [Operation.isEdit_of_choice plain] at unedited
    contradiction
  | accepted settles | devices settles | groups settles => simp [settles]
  | loaded => simp
  | counted | refreshed => simp [withCount]
  | sent answer => rw [concluded_selection]

theorem Effect.eq_of_failed {e : DeployError} (effect : Effect w operation reply w')
    (failed : reply = .failed e) (unsent : ∀ confirmed clock, operation ≠ .submit confirmed clock) :
    w' = w := by
  cases effect with
  | refused => rfl
  | unsent => exact absurd rfl (unsent _ _)
  | sent => exact absurd rfl (unsent _ _)
  | _ => contradiction

theorem Effect.failed_of_not_editable (effect : Effect w operation reply w')
    (edits : operation.isEdit = true) (locked : w.lifecycle.isEditable = false) :
    ∃ e, reply = .failed e := by
  have shut : ¬ w.lifecycle.isEditable = true := by simp [locked]
  cases effect with
  | refused => exact ⟨_, rfl⟩
  | released editable | targeted editable | phased editable | rephased editable
  | chosen editable => exact absurd editable shut
  | _ => contradiction

theorem selectRelease_failed_ensures (w : Wizard) (name : String) :
    (w.selectRelease name).Ensures fun exchanges r => ∀ e, r.1 = .error e → exchanges = [] := by
  unfold selectRelease
  split
  · exact fun _ _ => rfl
  · intro _ e failed
    contradiction

theorem selectTarget_failed_ensures (w : Wizard) (target : Target) :
    (w.selectTarget target).Ensures fun exchanges r => ∀ e, r.1 = .error e → exchanges = [] := by
  unfold selectTarget
  split
  · exact fun _ _ => rfl
  · rename_i picked _
    refine Dialogue.ensures_iff.mpr fun exchanges r runs e failed => ?_
    have succeeds : r.1 = .ok picked.settled.pending := by
      refine Dialogue.always_iff (P := fun r => r.1 = .ok picked.settled.pending) |>.mp ?_ _ _ runs
      by_cases all : target = .allDevices <;> simp [Dialogue.always_bind, all]
    rw [succeeds] at failed
    contradiction

theorem perform_failed_ensures (w : Wizard)
    (editing : operation = .open ∨ operation = .close ∨ operation.isEdit = true) :
    (w.perform operation).Ensures fun exchanges r => ∀ e, r.1 = .failed e → exchanges = [] := by
  cases operation with
  | «open» =>
    refine (perform_open_ensures w).imp ?_
    intro exchanges r ended e failed
    cases opening : w.lifecycle.process .open with
    | error e =>
      simp only [opening] at ended
      exact ended.1
    | ok lifecycle =>
      simp only [opening] at ended
      obtain ⟨_, _, rfl⟩ := ended
      contradiction
  | selectRelease name =>
    refine Dialogue.ensures_bind.mpr ((selectRelease_failed_ensures w name).imp ?_)
    rintro exchanges ⟨_ | e, w'⟩ silent e' failed
    · simpa using silent _ rfl
    · contradiction
  | selectTarget target =>
    refine Dialogue.ensures_bind.mpr ((selectTarget_failed_ensures w target).imp ?_)
    rintro exchanges ⟨_ | pending, w'⟩ silent e' failed
    · simpa using silent _ rfl
    · contradiction
  | close | setPhases | usePreviousPhases | setRetries | setSaveRetriesDefault | setForceInstall
  | setDelta | setMaxDevices | setUpdateControlMap => exact fun _ _ => rfl
  | _ => simp [Operation.isEdit] at editing

/-- An edit, an opening or a closing that fails leaves the whole wizard as it was, and asks and
reports nothing. A wizard that is not open refuses every edit, and nothing but opening and closing
changes what was chosen in it. -/
theorem edits_refused_without_trace (w : Wizard) (operation : Operation) :
    (w.perform operation).Ensures fun exchanges r =>
      (operation = .open ∨ operation = .close ∨ operation.isEdit = true →
        ∀ e, r.1 = .failed e → r.2 = w ∧ exchanges = []) ∧
      (w.lifecycle.stage ≠ .open →
        (operation.isEdit = true → ∃ e, r.1 = .failed e) ∧
        (operation ≠ .open → operation ≠ .close → r.2.selection.chosen = w.selection.chosen)) := by
  refine Dialogue.ensures_iff.mpr fun exchanges r runs => ?_
  have effect := Dialogue.always_iff.mp (perform_effect w operation) _ _ runs
  constructor
  · intro editing e failed
    constructor
    · refine effect.eq_of_failed failed ?_
      rintro confirmed clock rfl
      simp [Operation.isEdit] at editing
    · exact Dialogue.ensures_iff.mp (perform_failed_ensures w editing) _ _ runs e failed
  · intro shut
    have locked : w.lifecycle.isEditable = false := by simpa [Lifecycle.isEditable] using shut
    refine ⟨fun edits => effect.failed_of_not_editable edits locked, ?_⟩
    intro unopened unclosed
    cases edits : operation.isEdit with
    | true =>
      obtain ⟨e, failed⟩ := effect.failed_of_not_editable edits locked
      have same : r.2 = w := by
        refine effect.eq_of_failed failed ?_
        rintro confirmed clock rfl
        contradiction
      rw [same]
    | false => exact effect.chosen_eq edits unopened unclosed

@[irreducible] def finished : Wizard :=
  World.play { api := { accepted := 7, releases := ["v2"] } } (new {})
    [.open, .selectRelease "v2", .selectTarget .allDevices, .submit true default]

/-- It cannot be edited any more, and other groups do not change what was chosen. -/
theorem edits_refused_without_trace_finished :
    finished.lifecycle.stage = .submitted ∧
    (finished.perform (.setRetries 2)).Ensures (fun exchanges r =>
      (∃ e, r.1 = .failed e) ∧ r.2 = finished ∧ exchanges = []) ∧
    ∀ groups, (finished.perform (.setGroups groups)).Ensures fun _ r =>
      r.2.selection.chosen = finished.selection.chosen := by
  have submitted : finished.lifecycle.stage = .submitted := by decide +kernel
  have shut : finished.lifecycle.stage ≠ .open := by
    rw [submitted]
    nofun
  refine ⟨submitted, ?_, fun groups => ?_⟩
  · refine (edits_refused_without_trace finished (.setRetries 2)).imp ?_
    rintro exchanges r ⟨traceless, locked⟩
    obtain ⟨e, failed⟩ := (locked shut).1 rfl
    exact ⟨⟨e, failed⟩, traceless (.inr (.inr rfl)) e failed⟩
  · refine (edits_refused_without_trace finished (.setGroups groups)).imp ?_
    rintro exchanges r ⟨-, locked⟩
    exact (locked shut).2 nofun nofun

end Wizard
end FleetRollout
