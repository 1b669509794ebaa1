import FleetRollout.Proofs.Wizard.Editing
import FleetRollout.Wizard.Submission

/-! What a submission comes to. It is refused for the first reason that applies, and then nothing is
sent and nothing changes; otherwise one request is sent, and the answer decides where the wizard
stands. -/
namespace FleetRollout.Wizard
variable {w : Wizard} {confirmed : Bool} {clock : Readings}

abbrev AnsweredCall := (c : Call) × Except DeployError c.Answer

def answeredCall? : Dialogue.Exchange interface → Option AnsweredCall
  | ⟨.call c, answer⟩ => some ⟨c, answer⟩
  | _ => none

def answeredCalls (exchanges : List (Dialogue.Exchange interface)) : List AnsweredCall :=
  exchanges.filterMap answeredCall?

/-- What a submission comes to if it sends nothing: the first reason that applies decides. -/
def refusal? (w : Wizard) (confirmed : Bool) (clock : Readings) :
    Option (Except DeployError Outcome) :=
  if w.guard.inFlight then some (.ok .alreadyInFlight)
  else if w.lifecycle.stage ≠ .open then
    some (.error (.transition (.notEditable w.lifecycle.stage)))
  else if w.pending.isSome && w.selection.isPhased then
    some (.error (.validation .countStillLoading))
  else if !w.selection.isSubmittable clock.check then some (.error (.validation .selectionIncomplete))
  else if w.options.needsConfirmation && !confirmed then some (.ok .needsConfirmation)
  else match w.selection.request w.flags clock.request with
    | .error e => some (.error e)
    | .ok _ => none

/-- What a submission comes to once its request is answered. -/
def concluded (w : Wizard) :
    Except DeployError CreatedDeployment → Except DeployError Outcome × Wizard
  | .ok created =>
    (.ok (.created created),
      { w with lifecycle := ⟨.submitted, none, w.lifecycle.attempts + 1⟩ })
  | .error e =>
    (.error e, { w with lifecycle := ⟨.open, some e.message, w.lifecycle.attempts + 1⟩ })

theorem submission_of_not_open (other : w.lifecycle.stage ≠ .open) :
    w.submission confirmed clock = .error (.transition (.notEditable w.lifecycle.stage)) := by
  simp [submission, ensureEditable, Lifecycle.isEditable, other, bind, Except.bind]

theorem submission_of_open (editing : w.lifecycle.stage = .open) :
    w.submission confirmed clock =
      if w.pending.isSome && w.selection.isPhased then .error (.validation .countStillLoading)
      else if !w.selection.isSubmittable clock.check then .error (.validation .selectionIncomplete)
      else if w.options.needsConfirmation && !confirmed then .ok none
      else (w.selection.request w.flags clock.request).map some := by
  have editable : w.lifecycle.isEditable = true := by simpa [Lifecycle.isEditable] using editing
  unfold submission ensureEditable
  rw [if_pos editable]
  rfl

/-- With the guard free, the reasons are those for which there is no request. -/
theorem refusal?_of_free (free : w.guard.inFlight = false) :
    w.refusal? confirmed clock =
      match w.submission confirmed clock with
      | .error e => some (.error e)
      | .ok none => some (.ok .needsConfirmation)
      | .ok (some _) => none := by
  unfold refusal?
  rw [if_neg (by simp [free])]
  by_cases editing : w.lifecycle.stage = .open
  · rw [if_neg (by simp [editing]), submission_of_open editing]
    split
    · rfl
    · split
      · rfl
      · split
        · rfl
        · cases w.selection.request w.flags clock.request <;> rfl
  · rw [if_pos editing, submission_of_not_open editing]

/-- A request that is sent is the selection's, from an open wizard. -/
theorem submission_eq_some {request : DeploymentRequest}
    (made : w.submission confirmed clock = .ok (some request)) :
    w.lifecycle.stage = .open ∧ w.selection.request w.flags clock.request = .ok request := by
  by_cases editing : w.lifecycle.stage = .open
  · refine ⟨editing, ?_⟩
    rw [submission_of_open editing] at made
    split at made
    · contradiction
    · split at made
      · contradiction
      · split at made
        · cases made
        · cases previewed : w.selection.request w.flags clock.request with
          | error e => simp [previewed, Except.map] at made
          | ok r => simpa [previewed, Except.map] using made
  · rw [submission_of_not_open editing] at made
    contradiction

/-- The lifecycle lets both answers through while a request is outstanding. -/
theorem create_ensures (w : Wizard) (request : DeploymentRequest) :
    (create { w with lifecycle := ⟨.submitting, w.lifecycle.lastError, w.lifecycle.attempts + 1⟩ }
      request).Ensures fun exchanges r => ∃ answer,
        answeredCalls exchanges = [⟨.createDeployment request, answer⟩] ∧
          r = w.concluded answer := by
  unfold create
  refine Dialogue.ensures_bind.mpr fun answer => ?_
  cases answer with
  | ok created => exact fun _ => ⟨.ok created, rfl, rfl⟩
  | error e => exact fun _ => ⟨.error e, rfl, rfl⟩

theorem send_ensures (editing : w.lifecycle.stage = .open) (request : DeploymentRequest) :
    (w.send request).Ensures fun exchanges r => ∃ answer,
      answeredCalls exchanges = [⟨.createDeployment request, answer⟩] ∧ r = w.concluded answer := by
  have submitting : w.lifecycle.process .submit =
      .ok ⟨.submitting, w.lifecycle.lastError, w.lifecycle.attempts + 1⟩ := by
    simp [Lifecycle.process, editing]
  unfold send
  simp only [submitting]
  intro complete
  cases complete with
  | true => exact create_ensures w request
  | false => exact fun _ => create_ensures w request

theorem released_of_free (free : w.guard.inFlight = false) :
    ({ w with guard := ⟨false⟩ } : Wizard) = w := by
  have clear : (⟨false⟩ : Guard) = w.guard := congrArg Guard.mk free.symm
  rw [clear]

theorem submit_of_inFlight (busy : w.guard.inFlight = true) :
    w.submit confirmed clock = do
      log .debug "Submission already in flight, ignoring"
      return (.ok .alreadyInFlight, w) := by
  unfold submit
  simp only [Guard.acquire?, busy, if_true]

/-- With the guard free the request decides what is sent, if anything. -/
theorem submit_of_free (free : w.guard.inFlight = false) :
    w.submit confirmed clock =
      match w.submission confirmed clock with
      | .error e => .done (.error e, w)
      | .ok none => .done (.ok .needsConfirmation, w)
      | .ok (some request) => do
        let (result, w') ← send { w with guard := ⟨true⟩ } request
        return (result, { w' with guard := w'.guard.release }) := by
  -- The guard has no say in the request.
  have same : submission { w with guard := ⟨true⟩ } confirmed clock =
    w.submission confirmed clock := rfl
  have unsent (outcome : Except DeployError Outcome) :
      (Dialogue.done (outcome, { w with guard := ⟨false⟩ }) :
        Program (Except DeployError Outcome × Wizard)) = .done (outcome, w) := by
    rw [released_of_free free]
  unfold submit submitHeld
  simp only [Guard.acquire?, free, Bool.false_eq_true, if_false, same]
  cases w.submission confirmed clock with
  | error e => exact unsent (.error e)
  | ok request =>
    cases request with
    | none => exact unsent (.ok .needsConfirmation)
    | some request => rfl

/-- What a submission sends and leaves behind is decided by the request alone, and by another
submission that is under way. -/
theorem submit_ensures (w : Wizard) (confirmed : Bool) (clock : Readings) :
    (w.submit confirmed clock).Ensures fun exchanges r =>
      if w.guard.inFlight then answeredCalls exchanges = [] ∧ r = (.ok .alreadyInFlight, w)
      else match w.submission confirmed clock with
        | .error e => answeredCalls exchanges = [] ∧ r = (.error e, w)
        | .ok none => answeredCalls exchanges = [] ∧ r = (.ok .needsConfirmation, w)
        | .ok (some request) => ∃ answer,
          answeredCalls exchanges = [⟨.createDeployment request, answer⟩] ∧
            r = w.concluded answer := by
  cases busy : w.guard.inFlight with
  | true =>
    rw [submit_of_inFlight busy]
    exact fun _ => ⟨rfl, rfl⟩
  | false =>
    rw [submit_of_free busy]
    cases made : w.submission confirmed clock with
    | error e => exact ⟨rfl, rfl⟩
    | ok request =>
      cases request with
      | none => exact ⟨rfl, rfl⟩
      | some request =>
        have editing := (submission_eq_some made).1
        have sends := send_ensures (w := { w with guard := ⟨true⟩ }) editing request
        refine Dialogue.ensures_bind.mpr (sends.imp ?_)
        rintro exchanges r ⟨answer, sent, rfl⟩
        refine ⟨answer, by simpa using sent, ?_⟩
        rw [← released_of_free busy]
        cases answer <;> rfl

/-- Why nothing is sent and nothing changes, or else which request is sent and what its answer
comes to. -/
theorem submit_ensures_refusal? (w : Wizard) (confirmed : Bool) (clock : Readings) :
    (w.submit confirmed clock).Ensures fun exchanges r =>
      match w.refusal? confirmed clock with
      | some outcome => answeredCalls exchanges = [] ∧ r = (outcome, w)
      | none => ∃ request answer, w.selection.request w.flags clock.request = .ok request ∧
          answeredCalls exchanges = [⟨.createDeployment request, answer⟩] ∧
            r = w.concluded answer := by
  refine (submit_ensures w confirmed clock).imp fun exchanges r ended => ?_
  cases busy : w.guard.inFlight with
  | true => simpa [refusal?, busy] using ended
  | false =>
    rw [if_neg (by simp [busy])] at ended
    rw [refusal?_of_free busy]
    cases made : w.submission confirmed clock with
    | error e => simpa only [made] using ended
    | ok request =>
      cases request with
      | none => simpa only [made] using ended
      | some request =>
        rw [made] at ended
        obtain ⟨answer, sent, concludes⟩ := ended
        exact ⟨request, answer, (submission_eq_some made).2, sent, concludes⟩

theorem concluded_selection (w : Wizard) (answer : Except DeployError CreatedDeployment) :
    (w.concluded answer).2.selection = w.selection := by
  cases answer <;> rfl

theorem concluded_guard (w : Wizard) (answer : Except DeployError CreatedDeployment) :
    (w.concluded answer).2.guard = w.guard := by
  cases answer <;> rfl

/-- Whatever is answered, a submission sends at most one request, and leaves the selection and the
guard as they were. For the first reason that applies it is refused: then nothing is sent and
nothing changes. Otherwise it sends the request of the selection, and the answer to that decides
what it gives back and where the wizard stands. -/
theorem submit_refuses_or_sends (w : Wizard) (confirmed : Bool) (clock : Readings) :
    (w.submit confirmed clock).Ensures fun exchanges r =>
      (answeredCalls exchanges).length ≤ 1 ∧ r.2.selection = w.selection ∧ r.2.guard = w.guard ∧
      match w.refusal? confirmed clock with
      | some outcome => answeredCalls exchanges = [] ∧ r = (outcome, w)
      | none => ∃ request answer, w.selection.request w.flags clock.request = .ok request ∧
          answeredCalls exchanges = [⟨.createDeployment request, answer⟩] ∧
            r = w.concluded answer := by
  refine (submit_ensures_refusal? w confirmed clock).imp fun exchanges r ended => ?_
  cases refusal : w.refusal? confirmed clock with
  | some outcome =>
    simp only [refusal] at ended
    obtain ⟨unsent, rfl⟩ := ended
    exact ⟨by simp [unsent], rfl, rfl, unsent, rfl⟩
  | none =>
    simp only [refusal] at ended
    obtain ⟨request, answer, made, sent, rfl⟩ := ended
    exact ⟨by simp [sent], concluded_selection w answer, concluded_guard w answer, request, answer,
      made, sent, rfl⟩

end FleetRollout.Wizard
