import FleetRollout.Proofs.Wizard.Asking
import FleetRollout.Proofs.Wizard.Opening

/-! How a wizard stands whenever no operation is under way. It is never in the middle of a
submission, and only others can hold the guard. While it is closed it holds no selection; once a
deployment is created it sends nothing more until it is opened again. -/
namespace FleetRollout.Wizard
variable {w w' : Wizard} {operation : Operation} {reply : Reply} {turns : List Turn}
  {exchanges : List (Dialogue.Exchange interface)}

namespace Lifecycle

theorem process_open_eq_ok {l l' : Lifecycle} :
    l.process .open = .ok l' ↔ l.stage ≠ .submitting ∧ l' = { stage := .open } := by
  cases stage : l.stage <;> simp [process, stage, eq_comm]

theorem process_close_eq_ok {l l' : Lifecycle} :
    l.process .close = .ok l' ↔
      (l.stage = .open ∨ l.stage = .submitted) ∧ l' = { l with stage := .closed } := by
  cases stage : l.stage <;> simp [process, stage, eq_comm]

end Lifecycle

structure Resting (w : Wizard) : Prop where
  idle : w.lifecycle.stage ≠ .submitting
  closed : w.lifecycle.stage = .closed → w.selection = {} ∧ w.pending = none

theorem Resting.of_open (editing : w.lifecycle.stage = .open) : Resting w := by
  constructor
  · simp [editing]
  · intro closed
    rw [editing] at closed
    contradiction

theorem Resting.of_editable (editable : w.lifecycle.isEditable = true) : Resting w :=
  .of_open (by simpa [Lifecycle.isEditable] using editable)

/-- Of no selection there is nothing to derive, whatever the fleet is. -/
theorem Resting.settled (resting : Resting w) : Resting w.settled := by
  constructor
  · rw [settled_lifecycle]
    exact resting.idle
  · intro closed
    rw [settled_lifecycle] at closed
    have fresh := (resting.closed closed).1
    have complete : w.fleet.missing? w.selection.target = none := by
      rw [fresh]
      rfl
    constructor
    · rw [settled_selection, fresh]
      rfl
    · rw [settled_of_missing_none complete]

theorem Effect.resting (effect : Effect w operation reply w') (resting : Resting w) :
    Resting w' := by
  cases effect with
  | refused | notLoaded | notCounted | notRefreshed | unsent => exact resting
  | opened opening =>
    obtain ⟨_, rfl⟩ := Lifecycle.process_open_eq_ok.mp opening
    exact .of_open (by simp [restarted])
  | closed closing =>
    obtain ⟨_, rfl⟩ := Lifecycle.process_close_eq_ok.mp closing
    exact ⟨by simp, fun _ => ⟨rfl, rfl⟩⟩
  | released editable | phased editable | rephased editable | chosen editable =>
    exact .of_editable editable
  | targeted editable available settles =>
    rw [settles]
    exact .of_editable (by simpa using editable)
  | accepted settles | devices settles | groups settles =>
    rw [settles]
    exact Resting.settled ⟨resting.idle, resting.closed⟩
  | loaded => exact Resting.settled ⟨resting.idle, resting.closed⟩
  | counted | refreshed =>
    refine Resting.settled ⟨resting.idle, ?_⟩
    intro closed
    exact ⟨(resting.closed closed).1, rfl⟩
  | sent answer => cases answer <;> exact ⟨by simp [concluded], by simp [concluded]⟩

theorem History.resting {options : Options} (history : History (new options) turns w) :
    Resting w := by
  induction history with
  | start => exact ⟨by simp [new], fun _ => ⟨rfl, rfl⟩⟩
  | next _ step ih =>
    cases step with
    | perform runs => exact (Step.effect (.perform runs)).resting ih
    | guard use => exact ⟨ih.idle, ih.closed⟩

theorem perform_open_always_done (idle : w.lifecycle.stage ≠ .submitting) :
    (w.perform .open).Always fun r => r.1 = .done := by
  apply Dialogue.always_iff.mpr
  intro exchanges r runs
  have ended := Dialogue.ensures_iff.mp (perform_open_ensures w) _ _ runs
  rw [Lifecycle.process_open_eq_ok.mpr ⟨idle, rfl⟩] at ended
  obtain ⟨_, _, rfl⟩ := ended
  rfl

def Turn.held (before : Nat) (turn : Turn) : Nat :=
  match turn.move with
  | .guard .acquire => if turn.before.guard.inFlight then before else before + 1
  | .guard .release => before - 1
  | _ => before

def heldTokens (turns : List Turn) : Nat := turns.foldl Turn.held 0

theorem Effect.guard (effect : Effect w operation reply w') :
    w'.guard = w.guard ∨ w'.guard.inFlight = false := by
  cases effect with
  | opened => exact .inr (by simp [restarted, Guard.reset])
  | targeted editable available settles => exact .inl (by simp [settles])
  | accepted settles | devices settles | groups settles => exact .inl (by simp [settles])
  | loaded => exact .inl (by simp)
  | counted | refreshed => exact .inl (by simp [withCount])
  | sent answer => exact .inl (concluded_guard w answer)
  | _ => exact .inl rfl

/-- Whoever set the flag last still holds its token. -/
theorem History.held_pos {options : Options} (history : History (new options) turns w)
    (busy : w.guard.inFlight = true) : 0 < heldTokens turns := by
  have initial : (new options).guard.inFlight = true → 0 < 0 := by simp [new]
  refine history.recorded (P := fun held w => w.guard.inFlight = true → 0 < held) initial ?_ busy
  intro held w move w' before step busy
  cases step with
  | perform runs =>
    obtain same | free := (Step.effect (.perform runs)).guard
    · rw [same] at busy
      exact before busy
    · rw [free] at busy
      contradiction
  | guard use =>
    cases use with
    | acquire =>
      cases taken : w.guard.inFlight with
      | true => simpa [Turn.held, taken] using before taken
      | false => simp [Turn.held, taken]
    | release | reset => contradiction

theorem perform_submit_ensures (w : Wizard) (confirmed : Bool) (clock : Readings) :
    (w.perform (.submit confirmed clock)).Ensures fun exchanges r =>
      match w.refusal? confirmed clock with
      | some _ => answeredCalls exchanges = [] ∧ r.2 = w
      | none => ∃ request answer,
          answeredCalls exchanges = [⟨.createDeployment request, answer⟩] ∧
            r.2 = (w.concluded answer).2 := by
  refine Dialogue.ensures_bind.mpr ((submit_ensures_refusal? w confirmed clock).imp ?_)
  intro exchanges r ended
  simp only [Dialogue.pure_eq_done, Dialogue.ensures_done, List.append_nil]
  cases refusal : w.refusal? confirmed clock with
  | some outcome =>
    simp only [refusal] at ended
    obtain ⟨unsent, rfl⟩ := ended
    exact ⟨unsent, rfl⟩
  | none =>
    simp only [refusal] at ended
    obtain ⟨request, answer, _, sent, rfl⟩ := ended
    exact ⟨request, answer, sent, rfl⟩

theorem open_of_unrefused {confirmed : Bool} {clock : Readings}
    (unrefused : w.refusal? confirmed clock = none) : w.lifecycle.stage = .open := by
  by_cases editing : w.lifecycle.stage = .open
  · exact editing
  · unfold refusal? at unrefused
    split at unrefused <;> contradiction

def creationAnswer? : AnsweredCall → Option (Except DeployError CreatedDeployment)
  | ⟨.createDeployment _, answer⟩ => some answer
  | _ => none

def creationAnswers (exchanges : List (Dialogue.Exchange interface)) :
    List (Except DeployError CreatedDeployment) :=
  (answeredCalls exchanges).filterMap creationAnswer?

theorem creationAnswers_eq_nil_iff : creationAnswers exchanges = [] ↔ creations exchanges = [] := by
  rw [creationAnswers, creations_eq_filterMap, List.filterMap_eq_nil_iff,
    List.filterMap_eq_nil_iff]
  apply forall₂_congr
  rintro ⟨call, answer⟩ _
  cases call <;> simp [creationAnswer?]

/-- Nothing but a submission creates a deployment. -/
theorem Step.creations_of_not_submit (step : Step w (.perform operation exchanges reply) w')
    (other : ∀ confirmed clock, operation ≠ .submit confirmed clock) : creations exchanges = [] := by
  cases step with
  | perform runs =>
    apply List.filterMap_eq_nil_iff.mpr
    intro exchange found
    have may := (perform_asks w operation).exchanges runs exchange found
    cases created : creation? exchange with
    | none => rfl
    | some request =>
      rw [creation?_eq_some created] at may
      obtain ⟨confirmed, clock, same⟩ := may
      exact absurd same (other confirmed clock)

def Turn.opens (turn : Turn) : Bool :=
  match turn.move with
  | .perform .open _ .done => true
  | _ => false

/-- The answer to the last request to create a deployment since the wizard was opened. -/
def Turn.lastAnswer (before : Option (Except DeployError CreatedDeployment)) (turn : Turn) :
    Option (Except DeployError CreatedDeployment) :=
  if turn.opens then none
  else match turn.move with
    | .perform _ exchanges _ => (creationAnswers exchanges).getLast?.or before
    | .guard _ => before

def lastAnswer (turns : List Turn) : Option (Except DeployError CreatedDeployment) :=
  turns.foldl Turn.lastAnswer none

/-- Only a submission leads to the end of a deployment. -/
theorem Effect.submitted_before (effect : Effect w operation reply w')
    (other : ∀ confirmed clock, operation ≠ .submit confirmed clock)
    (submitted : w'.lifecycle.stage = .submitted) :
    w.lifecycle.stage = .submitted ∧ ¬ (operation = .open ∧ reply = .done) := by
  cases effect with
  | opened opening =>
    obtain ⟨_, rfl⟩ := Lifecycle.process_open_eq_ok.mp opening
    simp [restarted] at submitted
  | closed closing =>
    obtain ⟨_, rfl⟩ := Lifecycle.process_close_eq_ok.mp closing
    contradiction
  | refused => exact ⟨submitted, by simp⟩
  | targeted editable available settles => exact ⟨by simpa [settles] using submitted, by simp⟩
  | accepted settles | devices settles | groups settles =>
    exact ⟨by simpa [settles] using submitted, by simp⟩
  | loaded => exact ⟨by simpa using submitted, by simp⟩
  | counted | refreshed => exact ⟨by simpa [withCount] using submitted, by simp⟩
  | unsent | sent => exact absurd rfl (other _ _)
  | chosen editable plain =>
    refine ⟨submitted, ?_⟩
    rintro ⟨rfl, _⟩
    contradiction
  | _ => exact ⟨submitted, by simp⟩

theorem Step.lastAnswer {move : Move} {last : Option (Except DeployError CreatedDeployment)}
    (before : w.lifecycle.stage = .submitted → ∃ created, last = some (.ok created))
    (step : Step w move w') (submitted : w'.lifecycle.stage = .submitted) :
    ∃ created, (Turn.mk w move w').lastAnswer last = some (.ok created) := by
  cases step with
  | guard use => exact before submitted
  | @perform operation exchanges reply _ runs =>
    by_cases submits : ∃ confirmed clock, operation = .submit confirmed clock
    · obtain ⟨confirmed, clock, rfl⟩ := submits
      have ended := Dialogue.ensures_iff.mp (perform_submit_ensures w confirmed clock) _ _ runs
      cases refusal : w.refusal? confirmed clock with
      | some outcome =>
        simp only [refusal] at ended
        obtain ⟨unsent, rfl⟩ := ended
        simpa [Turn.lastAnswer, Turn.opens, creationAnswers, unsent] using before submitted
      | none =>
        simp only [refusal] at ended
        obtain ⟨request, answer, sent, rfl⟩ := ended
        cases answer with
        | ok created =>
          exact ⟨created, by simp [Turn.lastAnswer, Turn.opens, creationAnswers, sent,
            creationAnswer?]⟩
        | error e => contradiction
    · have other : ∀ confirmed clock, operation ≠ .submit confirmed clock := by simpa using submits
      have step := Step.perform runs
      obtain ⟨already, unopened⟩ := step.effect.submitted_before other submitted
      have none := creationAnswers_eq_nil_iff.mpr (step.creations_of_not_submit other)
      have opens : (Turn.mk w (.perform operation exchanges reply) w').opens = false := by
        unfold Turn.opens
        split
        · rename_i move
          cases move
          exact absurd ⟨rfl, rfl⟩ unopened
        · rfl
      simpa [Turn.lastAnswer, opens, none] using before already

theorem History.lastAnswer {options : Options} (history : History (new options) turns w)
    (submitted : w.lifecycle.stage = .submitted) :
    ∃ created, lastAnswer turns = some (.ok created) := by
  refine history.recorded (P := fun (last : Option (Except DeployError CreatedDeployment)) w =>
    w.lifecycle.stage = .submitted → ∃ created, last = some (.ok created)) ?_ ?_ submitted
  · intro submitted
    contradiction
  · exact Step.lastAnswer

/-- A wizard that is not open stays so until it is opened, and creates nothing. -/
theorem Step.shut {move : Move} (shut : w.lifecycle.stage ≠ .open) (step : Step w move w')
    (unopened : (Turn.mk w move w').opens = false) :
    w'.lifecycle.stage ≠ .open ∧ (Turn.mk w move w').requests = [] := by
  have locked : ¬ w.lifecycle.isEditable = true := by simpa [Lifecycle.isEditable] using shut
  cases step with
  | guard use => exact ⟨shut, rfl⟩
  | @perform operation exchanges reply _ runs =>
    have step := Step.perform runs
    constructor
    · have effect : Effect w operation reply w' := step.effect
      cases effect with
      | opened => contradiction
      | closed closing =>
        obtain ⟨_, rfl⟩ := Lifecycle.process_close_eq_ok.mp closing
        simp
      | released editable | targeted editable | phased editable | rephased editable
      | chosen editable => exact absurd editable locked
      | accepted settles | devices settles | groups settles => simpa [settles] using shut
      | loaded => simpa using shut
      | counted | refreshed => simpa [withCount] using shut
      | sent answer unrefused => exact absurd (open_of_unrefused unrefused) shut
      | _ => exact shut
    · by_cases submits : ∃ confirmed clock, operation = .submit confirmed clock
      · obtain ⟨confirmed, clock, rfl⟩ := submits
        have sent := Dialogue.ensures_iff.mp (perform_submit_creations w confirmed clock) _ _ runs
        cases refusal : w.refusal? confirmed clock with
        | some outcome =>
          simp only [refusal] at sent
          exact sent
        | none => exact absurd (open_of_unrefused refusal) shut
      · exact step.creations_of_not_submit (by simpa using submits)

theorem History.shut {later : List Turn} (shut : w.lifecycle.stage ≠ .open)
    (history : History w later w') (unopened : ∀ turn ∈ later, turn.opens = false) :
    w'.lifecycle.stage ≠ .open ∧ ∀ turn ∈ later, turn.requests = [] := by
  induction history with
  | start => exact ⟨shut, by simp⟩
  | next _ step ih =>
    obtain ⟨still, none⟩ := ih fun turn earlier =>
      unopened turn (List.mem_append_left _ earlier)
    obtain ⟨after, last⟩ := step.shut still (unopened _ (by simp))
    refine ⟨after, ?_⟩
    intro turn member
    obtain earlier | last_turn := List.mem_append.mp member
    · exact none turn earlier
    · obtain rfl := List.mem_singleton.mp last_turn
      exact last

/-- Whatever was done and answered before: no submission is left under way, so the wizard can be
opened; the guard is free unless somebody else holds a token; a closed wizard has a new selection
and waits for nothing; and a wizard that is done has created its deployment, and sends no other
request before it is opened again. -/
theorem at_rest_between_operations {options : Options} (history : History (new options) turns w) :
    (w.lifecycle.stage ≠ .submitting ∧ (w.perform .open).Always fun r => r.1 = .done) ∧
    (heldTokens turns = 0 → w.guard.inFlight = false) ∧
    (w.lifecycle.stage = .closed → w.selection = {} ∧ w.pending = none) ∧
    (w.lifecycle.stage = .submitted →
      (∃ created, lastAnswer turns = some (.ok created)) ∧
      ∀ later w', History w later w' → (∀ turn ∈ later, turn.opens = false) →
        ∀ turn ∈ later, turn.requests = []) := by
  have resting := history.resting
  refine ⟨⟨resting.idle, perform_open_always_done resting.idle⟩, ?_, resting.closed, ?_⟩
  · intro unheld
    cases busy : w.guard.inFlight with
    | false => rfl
    | true =>
      have held := history.held_pos busy
      omega
  · intro submitted
    refine ⟨history.lastAnswer submitted, ?_⟩
    intro later w' rest unopened
    have shut : w.lifecycle.stage ≠ .open := by
      simp [submitted]
    exact (rest.shut shut unopened).2

@[irreducible] def delivered : Wizard :=
  World.play
    { api := { releases := ["v2"], groups := ["east"], groupTotals := .ofList [("east", 4)] } }
    (new {})
    [.open, .selectRelease "v2", .selectTarget (.group "east"), .refreshCount,
      .submit true default, .setAccepted 9, .setGroups []]

theorem at_rest_between_operations_delivered :
    ∃ turns, History (new {}) turns delivered ∧ delivered.lifecycle.stage = .submitted ∧
      delivered.fleet.accepted = 9 ∧ (∃ created, lastAnswer turns = some (.ok created)) ∧
      ∀ exchanges reply w', Step delivered (.perform (.submit true default) exchanges reply) w' →
        creations exchanges = [] := by
  obtain ⟨turns, history⟩ : ∃ turns, History (new {}) turns delivered := by
    unfold delivered
    exact World.play_history _ _ _
  have submitted : delivered.lifecycle.stage = .submitted := by decide +kernel
  have accepted : delivered.fleet.accepted = 9 := by decide +kernel
  obtain ⟨created, silent⟩ := (at_rest_between_operations history).2.2.2 submitted
  refine ⟨turns, history, submitted, accepted, created, ?_⟩
  intro exchanges reply w' step
  have requests := silent _ w' (History.next .start step) (by simp [Turn.opens])
  exact requests ⟨delivered, _, w'⟩ List.mem_cons_self

end FleetRollout.Wizard
