import FleetRollout.Wizard.Editing
import FleetRollout.Wizard.Opening

/-! When a change of the selection is let through, and what it comes to. Each change checks before it
changes anything, so the wizard beside an error is the one from before. -/
namespace FleetRollout.Wizard
variable {w w' v : Wizard} {through : Prop} {r : Except DeployError Unit × Wizard} {e : DeployError}

theorem edit_bind_ok {change : Edit α} {a : α} (done : w.edit change = (.ok a, w'))
    (next : α → Edit β) : w.edit (change >>= next) = w'.edit (next a) := by
  unfold edit at done ⊢
  rw [ExceptT.run_bind, StateT.run_bind, done]
  rfl

theorem edit_bind_error {change : Edit α} (refused : w.edit change = (.error e, w'))
    (next : α → Edit β) : w.edit (change >>= next) = (.error e, w') := by
  unfold edit at refused ⊢
  rw [ExceptT.run_bind, StateT.run_bind, refused]
  rfl

theorem edit_checkEditable (w : Wizard) : w.edit checkEditable = (w.ensureEditable, w) := rfl

/-- What comes of a change that is let through under a condition and then leaves `w'`. -/
structure Edited (w : Wizard) (through : Prop) (w' : Wizard)
    (r : Except DeployError Unit × Wizard) : Prop where
  done : through → r = (.ok (), w')
  refused : ¬ through → ∃ e, r = (.error e, w)

theorem Edited.eq_ok (edited : Edited w through w' r) :
    r = (.ok (), v) ↔ through ∧ w' = v := by
  by_cases lets : through
  · simp [edited.done lets, lets]
  · obtain ⟨e, refused⟩ := edited.refused lets
    simp [refused, lets]

/-- Nothing comes before the check that the wizard is open. -/
theorem edited_of_checkEditable {next : Edit Unit} (rest : Edited w through w' (w.edit next)) :
    Edited w (w.lifecycle.isEditable = true ∧ through) w'
      (w.edit (checkEditable >>= fun _ => next)) := by
  have checked := edit_checkEditable w
  unfold ensureEditable at checked
  cases editable : w.lifecycle.isEditable with
  | true =>
    rw [editable, if_pos rfl] at checked
    rw [edit_bind_ok checked]
    simpa using rest
  | false =>
    rw [editable, if_neg Bool.false_ne_true] at checked
    rw [edit_bind_error checked]
    exact ⟨by simp, fun _ => ⟨_, rfl⟩⟩

theorem edited_of_refuseIf {condition : Wizard → Bool} {change : Selection → Selection}
    (lets : through ↔ condition w = false)
    (leaves : { w with selection := change w.selection } = w') :
    Edited w through w' (w.edit (refuseIf condition e >>= fun _ => changeSelection change)) := by
  have checked : w.edit (refuseIf condition e) =
      if condition w then (.error e, w) else (.ok (), w) := by
    change w.edit (if condition w then throw e else pure ()) = _
    split <;> rfl
  rw [lets, ← leaves]
  cases refuses : condition w with
  | true =>
    rw [refuses, if_pos rfl] at checked
    rw [edit_bind_error checked]
    exact ⟨by simp, fun _ => ⟨e, rfl⟩⟩
  | false =>
    rw [refuses, if_neg Bool.false_ne_true] at checked
    rw [edit_bind_ok checked]
    exact ⟨fun _ => rfl, by simp⟩

theorem choose_edited (w : Wizard) (change : Selection → Selection) :
    Edited w (w.lifecycle.isEditable = true) { w with selection := change w.selection }
      (w.choose change) := by
  have changed : Edited w True { w with selection := change w.selection }
      (w.edit (changeSelection change)) := ⟨fun _ => rfl, by simp⟩
  have edited := edited_of_checkEditable changed
  rwa [and_true] at edited

theorem pickRelease_edited (w : Wizard) (name : String) :
    Edited w (w.lifecycle.isEditable = true ∧ (w.releases = [] ∨ name ∈ w.releases))
      { w with selection := { w.selection with release := some ⟨name⟩ } } (w.pickRelease name) := by
  refine edited_of_checkEditable (edited_of_refuseIf ?_ rfl)
  simp [Decidable.or_iff_not_imp_left]

theorem pickTarget_edited (w : Wizard) (target : Target) :
    Edited w (w.lifecycle.isEditable = true ∧
        (target.mode = some .savedFilter → w.options.hasFullFiltering = true))
      { w with selection := w.selection.setTarget target } (w.pickTarget target) := by
  refine edited_of_checkEditable (edited_of_refuseIf ?_ rfl)
  simp

theorem setPhases_edited (w : Wizard) (phases : Option (List Phase)) :
    Edited w (w.lifecycle.isEditable = true ∧
        (phases.any (fun ps => !ps.isEmpty) = true → w.options.canSchedule = true))
      { w with selection := { w.selection with phases := phases } } (w.setPhases phases) := by
  refine edited_of_checkEditable (edited_of_refuseIf ?_ rfl)
  simp

/-- Without a preset there is nothing to set. -/
theorem usePreviousPhases_cases (w : Wizard) :
    w.usePreviousPhases = (.error (.notFound .previousPhases), w) ∨
      ∃ phases, w.options.previousPhases = some phases ∧ phases ≠ [] ∧
        w.usePreviousPhases = w.setPhases (some phases) := by
  unfold usePreviousPhases
  rcases w.options.previousPhases with _ | _ | ⟨phase, rest⟩
  · exact .inl rfl
  · exact .inl rfl
  · exact .inr ⟨_, rfl, List.cons_ne_nil phase rest, rfl⟩

theorem usePreviousPhases_eq_ok :
    w.usePreviousPhases = (.ok (), w') ↔
      ∃ phases, w.options.previousPhases = some phases ∧ phases ≠ [] ∧
        w.setPhases (some phases) = (.ok (), w') := by
  unfold usePreviousPhases
  rcases w.options.previousPhases with _ | _ | ⟨phase, rest⟩ <;> simp [Option.filter]

theorem close_cases (w : Wizard) :
    (∃ e, w.close = (.error e, w)) ∨
      ∃ lifecycle, w.lifecycle.process .close = .ok lifecycle ∧
        w.close =
          (.ok (), { w with lifecycle := lifecycle, selection := {}, pending := none }) := by
  have read : w.edit (do (← get).lifecycle.process .close) = (w.lifecycle.process .close, w) := rfl
  cases closing : w.lifecycle.process .close with
  | error e =>
    rw [closing] at read
    exact .inl ⟨e, edit_bind_error read _⟩
  | ok lifecycle =>
    rw [closing] at read
    exact .inr ⟨lifecycle, rfl, edit_bind_ok read _⟩

end FleetRollout.Wizard
