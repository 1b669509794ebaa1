import FleetRollout.Proofs.Wizard.Resting

/-! What the tour hears of a wizard. The steps that are reported tell which selections succeeded and
which requests were sent, in the order in which that happened; nothing else is reported. -/
namespace FleetRollout.Wizard
variable {w w' start : Wizard} {operation : Operation} {reply : Reply} {turns : List Turn}
  {exchanges : List (Dialogue.Exchange interface)}

/-- What happens between a wizard, its tour and the API that the steps depend on. -/
inductive TourEvent where
  | reported (step : OnboardingStep)
  /-- The tour was asked whether it is over. -/
  | asked (isOver : Bool)
  | sent (request : DeploymentRequest)

namespace TourEvent

def step? : TourEvent → Option OnboardingStep
  | reported step => some step
  | _ => none

def request? : TourEvent → Option DeploymentRequest
  | sent request => some request
  | _ => none

end TourEvent

def tourEvent? : Dialogue.Exchange interface → Option TourEvent
  | ⟨.advance step, _⟩ => some (.reported step)
  | ⟨.tourIsComplete, isOver⟩ => some (.asked isOver)
  | ⟨.call (.createDeployment request), _⟩ => some (.sent request)
  | _ => none

def tourEvents (exchanges : List (Dialogue.Exchange interface)) : List TourEvent :=
  exchanges.filterMap tourEvent?

/-- The requests that are sent, each with what the tour said before it. -/
def sendings : Option Bool → List TourEvent → List (Option Bool × DeploymentRequest)
  | _, [] => []
  | _, .asked isOver :: rest => sendings (some isOver) rest
  | isOver, .reported _ :: rest => sendings isOver rest
  | isOver, .sent request :: rest => (isOver, request) :: sendings isOver rest

def Turn.tourEvents (turn : Turn) : List TourEvent :=
  match turn.move with
  | .perform _ exchanges _ => Wizard.tourEvents exchanges
  | .guard _ => []

def Turn.steps (turn : Turn) : List OnboardingStep := turn.tourEvents.filterMap TourEvent.step?

def Move.picked : Move → List OnboardingStep
  | .perform (.selectRelease _) _ .done => [.artifactSelection]
  | .perform (.selectTarget target) _ (.ticket _) =>
    .groupSelection :: if target = .allDevices then [.allDevicesSelection] else []
  | _ => []

/-- The step of a request that is sent after the tour said that it is not over. -/
def sendingSteps (sending : Option Bool × DeploymentRequest) : List OnboardingStep :=
  if sending.1 = some false then [.releaseToDevices] else []

/-- The steps to report for what a turn achieves. -/
def Turn.due (turn : Turn) : List OnboardingStep :=
  turn.move.picked ++ (sendings none turn.tourEvents).flatMap sendingSteps

/-- What passes in a submission that sends a request. -/
def submissionEvents (isOver : Bool) (request : DeploymentRequest) : List TourEvent :=
  .asked isOver :: ((if isOver then [] else [.reported .releaseToDevices]) ++ [.sent request])

section Events
variable {rest : List (Dialogue.Exchange interface)}

@[simp] theorem tourEvents_append (first rest : List (Dialogue.Exchange interface)) :
    tourEvents (first ++ rest) = tourEvents first ++ tourEvents rest := List.filterMap_append

@[simp] theorem tourEvents_nil : tourEvents [] = [] := rfl

@[simp] theorem tourEvents_advance (step : OnboardingStep) (answer : Unit) :
    tourEvents (⟨.advance step, answer⟩ :: rest) = .reported step :: tourEvents rest := rfl

@[simp] theorem tourEvents_tourIsComplete (isOver : Bool) :
    tourEvents (⟨.tourIsComplete, isOver⟩ :: rest) = .asked isOver :: tourEvents rest := rfl

/-- Operations that neither select nor submit leave the tour alone. -/
theorem tourEvents_eq_nil (may : ∀ exchange ∈ exchanges, operation.MayAsk exchange.question)
    (release : ∀ name, operation ≠ .selectRelease name)
    (target : ∀ target, operation ≠ .selectTarget target)
    (submit : ∀ confirmed clock, operation ≠ .submit confirmed clock) : tourEvents exchanges = [] := by
  apply List.filterMap_eq_nil_iff.mpr
  rintro ⟨question, answer⟩ found
  have may := may _ found
  cases question with
  | log entry => rfl
  | call c =>
    cases c with
    | createDeployment request =>
      obtain ⟨confirmed, clock, same⟩ := may
      exact absurd same (submit confirmed clock)
    | _ => rfl
  | advance step =>
    cases step with
    | artifactSelection =>
      obtain ⟨name, same⟩ := may
      exact absurd same (release name)
    | groupSelection | allDevicesSelection =>
      obtain ⟨picked, same⟩ := may
      exact absurd same (target picked)
    | releaseToDevices =>
      obtain ⟨confirmed, clock, same⟩ := may
      exact absurd same (submit confirmed clock)
  | tourIsComplete =>
    obtain ⟨confirmed, clock, same⟩ := may
    exact absurd same (submit confirmed clock)

end Events

@[simp] theorem ensures_advance {step : OnboardingStep}
    {P : List (Dialogue.Exchange interface) → Unit → Prop} :
    (advance step).Ensures P ↔ P [⟨.advance step, ()⟩] () := ⟨fun h => h (), fun h _ => h⟩

theorem settle_ensures_silent (w : Wizard) :
    (settle w).Ensures fun exchanges _ => tourEvents exchanges = [] := by
  apply Dialogue.ensures_iff.mpr
  intro exchanges settled runs
  have asks : (settle w).Asks (Operation.MayAsk .close) := settle_asks w
  exact tourEvents_eq_nil (asks.exchanges runs) (by simp) (by simp) (by simp)

theorem selectRelease_ensures_picked (w : Wizard) (name : String) :
    (w.perform (.selectRelease name)).Ensures fun exchanges r =>
      tourEvents exchanges =
        (Move.perform (.selectRelease name) exchanges r.1).picked.map .reported := by
  refine Dialogue.ensures_bind.mpr ?_
  unfold selectRelease
  rcases w.pickRelease name with ⟨e | _, w'⟩
  · rfl
  · exact Dialogue.ensures_bind.mpr (ensures_advance.mpr rfl)

theorem selectTarget_ensures_picked (w : Wizard) (target : Target) :
    (w.perform (.selectTarget target)).Ensures fun exchanges r =>
      tourEvents exchanges =
        (Move.perform (.selectTarget target) exchanges r.1).picked.map .reported := by
  refine Dialogue.ensures_bind.mpr ?_
  unfold selectTarget
  rcases w.pickTarget target with ⟨e | _, w'⟩
  · rfl
  · by_cases all : target = .allDevices
    · simp only [all, if_true, Dialogue.ensures_bind, ensures_advance]
      refine (settle_ensures_silent w').imp fun exchanges settled silent => ?_
      simp [silent, Reply.ofTicket, Move.picked]
    · simp only [all, if_false, Dialogue.ensures_bind, ensures_advance]
      refine (settle_ensures_silent w').imp fun exchanges settled silent => ?_
      simp [silent, Reply.ofTicket, Move.picked, all]

/-- What is not submitted reports the steps of what is picked, and nothing else. -/
theorem Step.tourEvents_of_not_submit (step : Step w (.perform operation exchanges reply) w')
    (other : ∀ confirmed clock, operation ≠ .submit confirmed clock) :
    tourEvents exchanges = (Move.perform operation exchanges reply).picked.map .reported := by
  cases step with
  | perform runs =>
    have may := (perform_asks w operation).exchanges runs
    cases operation with
    | selectRelease name =>
      exact Dialogue.ensures_iff.mp (selectRelease_ensures_picked w name) _ _ runs
    | selectTarget target =>
      exact Dialogue.ensures_iff.mp (selectTarget_ensures_picked w target) _ _ runs
    | submit confirmed clock => exact absurd rfl (other confirmed clock)
    | _ => exact tourEvents_eq_nil may (by simp) (by simp) (by simp)

theorem create_ensures_sent (w : Wizard) (request : DeploymentRequest) :
    (w.create request).Ensures fun exchanges _ => tourEvents exchanges = [.sent request] := by
  unfold create
  refine Dialogue.ensures_bind.mpr fun answer => ?_
  cases answer with
  | ok created => exact fun _ => rfl
  | error e => exact fun _ => rfl

/-- An open wizard can start to submit, so the step that is reported is followed by the request. -/
theorem send_ensures_sent (editing : w.lifecycle.stage = .open) (request : DeploymentRequest) :
    (w.send request).Ensures fun exchanges _ =>
      ∃ isOver, tourEvents exchanges = submissionEvents isOver request := by
  have submitting : w.lifecycle.process .submit =
      .ok ⟨.submitting, w.lifecycle.lastError, w.lifecycle.attempts + 1⟩ := by
    simp [Lifecycle.process, editing]
  unfold send
  simp only [submitting]
  intro isOver
  have sends := create_ensures_sent
    { w with lifecycle := ⟨.submitting, w.lifecycle.lastError, w.lifecycle.attempts + 1⟩ } request
  cases isOver with
  | true => exact sends.imp fun _ _ sent => ⟨true, by simp [sent, submissionEvents]⟩
  | false =>
    intro _
    exact sends.imp fun _ _ sent => ⟨false, by simp [sent, submissionEvents]⟩

theorem submit_ensures_sent (w : Wizard) (confirmed : Bool) (clock : Readings) :
    (w.submit confirmed clock).Ensures fun exchanges _ =>
      match w.refusal? confirmed clock with
      | some _ => tourEvents exchanges = []
      | none => ∃ request isOver, tourEvents exchanges = submissionEvents isOver request := by
  cases busy : w.guard.inFlight with
  | true =>
    rw [submit_of_inFlight busy, refusal?, if_pos busy]
    exact fun _ => rfl
  | false =>
    rw [submit_of_free busy, refusal?_of_free busy]
    cases made : w.submission confirmed clock with
    | error e => exact rfl
    | ok request =>
      cases request with
      | none => exact rfl
      | some request =>
        have editing := (submission_eq_some made).1
        have sends := send_ensures_sent (w := { w with guard := ⟨true⟩ }) editing request
        refine Dialogue.ensures_bind.mpr (sends.imp ?_)
        rintro exchanges r ⟨isOver, sent⟩
        exact ⟨request, isOver, by simpa using sent⟩

theorem Step.tourEvents_of_submit {confirmed : Bool} {clock : Readings}
    (step : Step w (.perform (.submit confirmed clock) exchanges reply) w') :
    match w.refusal? confirmed clock with
    | some _ => tourEvents exchanges = []
    | none => ∃ request isOver, tourEvents exchanges = submissionEvents isOver request := by
  cases step with
  | perform runs =>
    obtain ⟨first, r, rest, submits, ends, rfl⟩ := Dialogue.runs_bind.mp runs
    obtain ⟨rfl, _⟩ := Dialogue.runs_done.mp ends
    have ended := Dialogue.ensures_iff.mp (submit_ensures_sent w confirmed clock) _ _ submits
    simpa using ended

theorem Turn.requests_eq (turn : Turn) :
    turn.requests = turn.tourEvents.filterMap TourEvent.request? := by
  obtain ⟨before, move, after⟩ := turn
  cases move with
  | guard use => rfl
  | perform operation exchanges reply =>
    change exchanges.filterMap creation? =
      (exchanges.filterMap tourEvent?).filterMap TourEvent.request?
    rw [List.filterMap_filterMap]
    congr 1
    funext ⟨question, answer⟩
    cases question with
    | call c => cases c <;> rfl
    | log | advance | tourIsComplete => rfl

/-- A turn reports what is picked, or it sends a request. -/
theorem Step.tourEvents_cases {move : Move} (step : Step w move w') :
    (Turn.mk w move w').tourEvents = move.picked.map .reported ∨
      ∃ request isOver, move.picked = [] ∧
        (Turn.mk w move w').tourEvents = submissionEvents isOver request := by
  cases step with
  | guard use => exact .inl rfl
  | @perform operation exchanges reply _ runs =>
    have step := Step.perform runs
    by_cases submits : ∃ confirmed clock, operation = .submit confirmed clock
    · obtain ⟨confirmed, clock, rfl⟩ := submits
      have events := step.tourEvents_of_submit
      cases refusal : w.refusal? confirmed clock with
      | some outcome =>
        simp only [refusal] at events
        exact .inl events
      | none =>
        simp only [refusal] at events
        obtain ⟨request, isOver, events⟩ := events
        exact .inr ⟨request, isOver, rfl, events⟩
    · exact .inl (step.tourEvents_of_not_submit (by simpa using submits))

theorem filterMap_step?_reported (steps : List OnboardingStep) :
    (steps.map TourEvent.reported).filterMap TourEvent.step? = steps := by
  rw [List.filterMap_map]
  exact List.filterMap_some

theorem sendings_reported (isOver : Option Bool) (steps : List OnboardingStep) :
    sendings isOver (steps.map .reported) = [] := by
  induction steps with
  | nil => rfl
  | cons step rest ih => exact ih

theorem Step.steps_eq_due {move : Move} (step : Step w move w') :
    (Turn.mk w move w').steps = (Turn.mk w move w').due := by
  unfold Turn.steps Turn.due
  obtain picks | ⟨request, isOver, none, sends⟩ := step.tourEvents_cases
  · rw [picks, filterMap_step?_reported, sendings_reported, List.flatMap_nil, List.append_nil]
  · rw [none, sends]
    cases isOver <;> rfl

/-- A request is sent right after the tour was asked and, if need be, told. -/
theorem Step.tourEvents_of_request {move : Move} {request : DeploymentRequest}
    (step : Step w move w') (sent : request ∈ (Turn.mk w move w').requests) :
    ∃ isOver, (Turn.mk w move w').tourEvents = submissionEvents isOver request := by
  rw [Turn.requests_eq] at sent
  obtain picks | ⟨made, isOver, _, sends⟩ := step.tourEvents_cases
  · rw [picks] at sent
    simp [TourEvent.request?] at sent
  · obtain rfl : made = request := by
      rw [sends] at sent
      cases isOver <;> simpa [submissionEvents, TourEvent.request?] using sent
    exact ⟨isOver, sends⟩

theorem Step.tourEvents_of_refusal {confirmed : Bool} {clock : Readings} {outcome}
    (step : Step w (.perform (.submit confirmed clock) exchanges reply) w')
    (refusal : w.refusal? confirmed clock = some outcome) : tourEvents exchanges = [] := by
  simpa only [refusal] using step.tourEvents_of_submit

/-- Whatever was done and answered, and whatever the tour says: the steps it hears are, in order,
those of the selections that succeeded and one for each request that was sent while the tour was not
over. That one comes right before the request, whatever the answer to it is; a submission that is
refused has nothing to do with the tour. -/
theorem steps_tell_of_successes (history : History start turns w) :
    turns.flatMap Turn.steps = turns.flatMap Turn.due ∧
    (∀ turn ∈ turns, ∀ request ∈ turn.requests,
      ∃ isOver, turn.tourEvents = submissionEvents isOver request) ∧
    (∀ turn ∈ turns, ∀ confirmed clock exchanges reply outcome,
      turn.move = .perform (.submit confirmed clock) exchanges reply →
      turn.before.refusal? confirmed clock = some outcome → turn.tourEvents = []) := by
  refine ⟨?_, ?_, ?_⟩
  · rw [List.flatMap_def, List.flatMap_def]
    refine congrArg List.flatten (List.map_congr_left fun turn member => ?_)
    exact (history.step_of_mem member).steps_eq_due
  · intro turn member request sent
    exact (history.step_of_mem member).tourEvents_of_request sent
  · rintro ⟨before, move, after⟩ member confirmed clock exchanges reply outcome rfl refusal
    exact (history.step_of_mem member).tourEvents_of_refusal refusal

/-- A wizard with a tour that is not over. Its first release is not on offer, its first submission
is not confirmed, and its requests are rejected. -/
@[irreducible] def toured : List Turn :=
  World.turns
    { api :=
        { releases := ["v2"]
          accepted := 5
          rejection := fun
            | .createDeployment _ => some (503, "busy")
            | _ => none }
      tour := .running }
    (new { needsConfirmation := true })
    [.open, .selectRelease "v1", .selectRelease "v2", .selectTarget .allDevices,
      .submit false default, .submit true default, .submit true default]

theorem steps_tell_of_successes_rejected :
    ∃ w, History (new { needsConfirmation := true }) toured w ∧
      toured.flatMap Turn.due = [.artifactSelection, .groupSelection, .allDevicesSelection,
        .releaseToDevices, .releaseToDevices] := by
  have history : ∃ w, History (new { needsConfirmation := true }) toured w := by
    unfold toured
    exact ⟨_, World.turns_history _ _ _⟩
  obtain ⟨w, history⟩ := history
  refine ⟨w, history, ?_⟩
  rw [← (steps_tell_of_successes history).1]
  decide +kernel

end FleetRollout.Wizard
