import FleetRollout.Proofs.Selection.Completeness
import FleetRollout.Proofs.Wizard.Consistency
import FleetRollout.Proofs.Wizard.Submission

/-! What a submission sends. It sends the request of the selection, once, exactly if submitting is
offered and a target is selected. The first does not imply the second: the device count of an
earlier target makes a selection without target count as complete. -/
namespace FleetRollout.Wizard
variable {w : Wizard} {now : Instant}

def creation? (exchange : Dialogue.Exchange interface) : Option DeploymentRequest :=
  match exchange.question with
  | .call (.createDeployment request) => some request
  | _ => none

def creations (exchanges : List (Dialogue.Exchange interface)) : List DeploymentRequest :=
  exchanges.filterMap creation?

theorem isSubmittable_iff :
    w.isSubmittable now = true ↔
      w.lifecycle.isEditable = true ∧ w.guard.inFlight = false ∧ w.awaitsCount = false ∧
        w.selection.isSubmittable now = true := by
  unfold isSubmittable isSubmittable? Selection.isSubmittable
  cases w.lifecycle.isEditable <;> cases w.guard.inFlight <;> cases w.awaitsCount <;> simp

theorem submission_of_isSubmittable (submittable : w.isSubmittable now = true) :
    w.submission true (.once now) = (w.preview now).map some := by
  obtain ⟨editable, _, counted, complete⟩ := isSubmittable_iff.mp submittable
  unfold submission ensureEditable
  cases preview : w.preview now <;>
    simp [editable, counted, complete, preview, bind, Except.bind, pure, Except.pure, Except.map]

/-- What is not submittable is refused, unless only another submission stands in its way. -/
theorem submission_of_not_isSubmittable (free : w.guard.inFlight = false)
    (unfit : w.isSubmittable now = false) : ∃ e, w.submission true (.once now) = .error e := by
  unfold submission ensureEditable
  cases editable : w.lifecycle.isEditable with
  | false => exact ⟨_, rfl⟩
  | true =>
    cases counted : w.awaitsCount with
    | true => exact ⟨_, rfl⟩
    | false =>
      have incomplete : w.selection.isSubmittable now = false := by
        refine Bool.eq_false_iff.mpr fun complete => Bool.eq_false_iff.mp unfit ?_
        exact isSubmittable_iff.mpr ⟨editable, free, counted, complete⟩
      exact ⟨.validation .selectionIncomplete, by
        simp [incomplete, bind, Except.bind, throw, throwThe, MonadExceptOf.throw]⟩

/-- Creations are calls, so the traffic tells them. -/
theorem creations_eq_filterMap (exchanges : List (Dialogue.Exchange interface)) :
    creations exchanges = (answeredCalls exchanges).filterMap fun answered =>
      match answered.1 with
      | .createDeployment request => some request
      | _ => none := by
  unfold creations answeredCalls
  rw [List.filterMap_filterMap]
  congr 1
  funext ⟨question, answer⟩
  cases question with
  | call c => cases c <;> rfl
  | log | advance | tourIsComplete => rfl

/-- What is sent is what the submission comes to, and nothing if another one is under way. -/
theorem submit_creations (w : Wizard) (confirmed : Bool) (clock : Readings) :
    (w.submit confirmed clock).Ensures fun exchanges r =>
      if w.guard.inFlight then creations exchanges = [] ∧ r.1 = .ok .alreadyInFlight
      else match w.submission confirmed clock with
        | .ok (some request) => creations exchanges = [request]
        | .ok none => creations exchanges = [] ∧ r.1 = .ok .needsConfirmation
        | .error e => creations exchanges = [] ∧ r.1 = .error e := by
  refine (submit_ensures w confirmed clock).imp fun exchanges r ended => ?_
  have unsent (none : answeredCalls exchanges = []) : creations exchanges = [] := by
    rw [creations_eq_filterMap, none]
    rfl
  cases busy : w.guard.inFlight with
  | true =>
    rw [if_pos busy] at ended
    exact ⟨unsent ended.1, congrArg Prod.fst ended.2⟩
  | false =>
    rw [if_neg (by simp [busy])] at ended
    cases made : w.submission confirmed clock with
    | error e =>
      simp only [made] at ended
      exact ⟨unsent ended.1, congrArg Prod.fst ended.2⟩
    | ok request =>
      cases request with
      | none =>
        simp only [made] at ended
        exact ⟨unsent ended.1, congrArg Prod.fst ended.2⟩
      | some request =>
        simp only [made] at ended
        obtain ⟨answer, sent, _⟩ := ended
        simp [creations_eq_filterMap, sent]

theorem InLine.awaitsCount_of_unmeasured (inLine : InLine w)
    (unmeasured : w.fleet.measures w.selection.target = false) : w.awaitsCount = false := by
  simp [awaitsCount, inLine.pending_of_unmeasured unmeasured]

/-- Without a target nothing is waited for, so only a device count can make it complete. -/
theorem InLine.isSubmittable_iff_of_mode_none (inLine : InLine w)
    (untargeted : w.selection.target.mode = none) :
    w.isSubmittable now = true ↔
      w.lifecycle.isEditable = true ∧ w.guard.inFlight = false ∧
        w.selection.release.isSome = true ∧ 0 < w.selection.resolvedDeviceCount ∧
        Rollout.isValid (w.selection.phases.getD []) w.selection.resolvedDeviceCount now
          = true := by
  have counted := inLine.awaitsCount_of_unmeasured (Fleet.measures_of_mode_none untargeted)
  rw [isSubmittable_iff, Selection.isSubmittable_iff]
  simp [counted, untargeted]

section Confirmed
variable {exchanges : List (Dialogue.Exchange interface)}
  {r : Except DeployError Outcome × Wizard}

theorem creations_of_not_isSubmittable (runs : (w.submit true (.once now)).Runs exchanges r)
    (unfit : w.isSubmittable now = false) : creations exchanges = [] := by
  have sent := Dialogue.ensures_iff.mp (submit_creations w true (.once now)) _ _ runs
  cases busy : w.guard.inFlight with
  | true =>
    rw [if_pos busy] at sent
    exact sent.1
  | false =>
    obtain ⟨e, refused⟩ := submission_of_not_isSubmittable busy unfit
    rw [if_neg (by simp [busy]), refused] at sent
    exact sent.1

/-- What a submittable wizard sends is decided by the request that is previewed alone. -/
theorem creations_of_isSubmittable (runs : (w.submit true (.once now)).Runs exchanges r)
    (submittable : w.isSubmittable now = true) :
    match w.preview now with
    | .ok request => creations exchanges = [request]
    | .error e => creations exchanges = [] ∧ r.1 = .error e := by
  have sent := Dialogue.ensures_iff.mp (submit_creations w true (.once now)) _ _ runs
  have free := (isSubmittable_iff.mp submittable).2.1
  rw [if_neg (by simp [free]), submission_of_isSubmittable submittable] at sent
  cases preview : w.preview now with
  | ok request => simpa [preview, Except.map] using sent
  | error e => simpa [preview, Except.map] using sent

theorem creations_of_mode_none (runs : (w.submit true (.once now)).Runs exchanges r)
    (submittable : w.isSubmittable now = true) (untargeted : w.selection.target.mode = none) :
    creations exchanges = [] ∧ r.1 = .error (.validation .noTarget) := by
  have complete := (isSubmittable_iff.mp submittable).2.2.2
  have refused : w.preview now = .error (.validation .noTarget) :=
    Selection.request_of_mode_none w.flags complete untargeted
  simpa [refused] using creations_of_isSubmittable runs submittable

theorem creations_of_mode (runs : (w.submit true (.once now)).Runs exchanges r)
    (submittable : w.isSubmittable now = true)
    (targeted : w.selection.target.mode.isSome = true) :
    ∃ request, w.preview now = .ok request ∧ creations exchanges = [request] := by
  have complete := (isSubmittable_iff.mp submittable).2.2.2
  obtain ⟨request, made⟩ := Selection.request_of_isSubmittable w.flags complete targeted
  have previewed : w.preview now = .ok request := made
  refine ⟨request, previewed, ?_⟩
  simpa [previewed] using creations_of_isSubmittable runs submittable

/-- Whatever happened before, a confirmed submission sends something exactly if submitting is offered
and a target is selected; then it sends the request that is previewed. Without a target submitting
may still be offered, on the strength of the device count of an earlier one. -/
theorem submit_creates_iff_submittable_and_targeted {options : Options} {turns : List Turn}
    (history : History (new options) turns w) (runs : (w.submit true (.once now)).Runs exchanges r) :
    (creations exchanges ≠ [] ↔
      w.isSubmittable now = true ∧ w.selection.target.mode.isSome = true) ∧
    (creations exchanges ≠ [] →
      ∃ request, w.preview now = .ok request ∧ creations exchanges = [request]) ∧
    (w.selection.target.mode = none →
      (w.isSubmittable now = true → r.1 = .error (.validation .noTarget)) ∧
      (w.isSubmittable now = true ↔
        w.lifecycle.isEditable = true ∧ w.guard.inFlight = false ∧
          w.selection.release.isSome = true ∧ 0 < w.selection.resolvedDeviceCount ∧
          Rollout.isValid (w.selection.phases.getD []) w.selection.resolvedDeviceCount now
            = true)) := by
  have inLine : InLine w := Reachable.inLine ⟨options, turns, history⟩
  have sends : creations exchanges ≠ [] ↔
      w.isSubmittable now = true ∧ w.selection.target.mode.isSome = true := by
    constructor
    · intro sent
      cases submittable : w.isSubmittable now with
      | false => exact absurd (creations_of_not_isSubmittable runs submittable) sent
      | true =>
        cases mode : w.selection.target.mode with
        | none => exact absurd (creations_of_mode_none runs submittable mode).1 sent
        | some mode => exact ⟨rfl, rfl⟩
    · rintro ⟨submittable, targeted⟩
      obtain ⟨request, _, sent⟩ := creations_of_mode runs submittable targeted
      simp [sent]
  refine ⟨sends, fun sent => ?_, fun untargeted => ⟨fun submittable => ?_, ?_⟩⟩
  · obtain ⟨submittable, targeted⟩ := sends.mp sent
    exact creations_of_mode runs submittable targeted
  · exact (creations_of_mode_none runs submittable untargeted).2
  · exact inLine.isSubmittable_iff_of_mode_none untargeted

end Confirmed

@[irreducible] def targeted : Wizard :=
  World.play { api := { accepted := 7, releases := ["v2"] } } (new {})
    [.open, .selectRelease "v2", .selectTarget .allDevices]

theorem submit_creates_iff_submittable_and_targeted_all :
    ∃ turns exchanges r, History (new {}) turns targeted ∧
      (targeted.submit true (.once default)).Runs exchanges r ∧ creations exchanges ≠ [] := by
  obtain ⟨turns, history⟩ : ∃ turns, History (new {}) turns targeted := by
    unfold targeted
    exact World.play_history _ _ _
  obtain ⟨exchanges, runs⟩ := World.runs_run {} (targeted.submit true (.once default))
  refine ⟨turns, exchanges, _, history, runs, ?_⟩
  have agrees := (submit_creates_iff_submittable_and_targeted history runs).1
  exact agrees.mpr (by decide +kernel)

/-- A wizard with a release picked, and all devices picked and dropped again. -/
@[irreducible] def deselected : Wizard :=
  World.play { api := { accepted := 7, releases := ["v2"] } } (new {})
    [.open, .selectRelease "v2", .selectTarget .allDevices, .selectTarget .unselected]

theorem not_submit_creates_iff_submittable :
    ¬ ∀ w now exchanges r, Reachable w → (w.submit true (.once now)).Runs exchanges r →
      (creations exchanges ≠ [] ↔ w.isSubmittable now = true) := by
  intro agrees
  have reachable : Reachable deselected := by
    unfold deselected
    exact World.reachable_play _ _ _
  obtain ⟨exchanges, runs⟩ := World.runs_run {} (deselected.submit true (.once default))
  have submittable : deselected.isSubmittable default = true := by decide +kernel
  have untargeted : deselected.selection.target.mode = none := by decide +kernel
  have sent := (agrees deselected default exchanges _ reachable runs).mpr submittable
  exact sent (creations_of_mode_none runs submittable untargeted).1

end FleetRollout.Wizard
