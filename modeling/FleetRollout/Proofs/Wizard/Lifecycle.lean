import FleetRollout.Wizard.Lifecycle
import Mathlib.Data.List.DropRight

/-! A lifecycle told by the events that it accepted. The last one of them decides the stage, and which
events are accepted next; attempts are the submissions since the last opening, and the error is the
reason of the last failure that nothing has cleared. -/
namespace FleetRollout.Wizard

namespace Event

def isOutcome : Event → Bool
  | submitSucceeded | submitFailed _ => true
  | .open | submit | close => false

/-- Whether an event leaves nothing of the reason of an earlier failure. -/
def replacesError : Event → Bool
  | .open | submitSucceeded | submitFailed _ => true
  | submit | close => false

def stage : Event → Stage
  | .open | submitFailed _ => .open
  | submit => .submitting
  | submitSucceeded => .submitted
  | close => .closed

/-- Whether an event is accepted when `last` was the last one to be. -/
def mayFollow (event : Event) (last : Option Event) : Bool :=
  match event, last with
  | .open, some submit => false
  | .open, _ => true
  | submit, some .open | submit, some (submitFailed _) => true
  | close, some .open | close, some (submitFailed _) | close, some submitSucceeded => true
  | submitSucceeded, some submit | submitFailed _, some submit => true
  | _, _ => false

theorem eq_submit_of_mayFollow {event : Event} {last : Option Event} (outcome : event.isOutcome)
    (follows : event.mayFollow last) : last = some .submit := by
  unfold mayFollow at follows
  split at follows <;> first | rfl | contradiction

theorem isOutcome_of_mayFollow {event : Event} (follows : event.mayFollow (some .submit)) :
    event.isOutcome := by
  cases event <;> first | rfl | contradiction

end Event

namespace Lifecycle
variable {l l' : Lifecycle} {event : Event} {events past : List Event} {reason : String}

def moved (l : Lifecycle) (event : Event) : Lifecycle :=
  match event with
  | .open => { stage := .open }
  | .submit => { l with stage := .submitting, attempts := l.attempts + 1 }
  | .submitSucceeded => { l with stage := .submitted, lastError := none }
  | .submitFailed reason => { l with stage := .open, lastError := some reason }
  | .close => { l with stage := .closed }

/-- The stage after the last accepted event; a new lifecycle is closed. -/
def stageAfter (last : Option Event) : Stage := (last.map Event.stage).getD .closed

/-- An event is refused, in words that name the stage, or it moves the lifecycle. -/
theorem process_eq {last : Option Event} (stands : l.stage = stageAfter last) (event : Event) :
    l.process event =
      if event.mayFollow last then .ok (l.moved event)
      else .error (.transition (.notAllowed l.stage event)) := by
  rcases last with _ | last
  · cases event <;> simp [process, stands, stageAfter, Event.mayFollow, moved]
  · cases last <;> cases event <;>
      simp [process, stands, stageAfter, Event.stage, Event.mayFollow, moved]

/-- A refused event leaves a lifecycle as it is. -/
def after (l : Lifecycle) (event : Event) : Lifecycle := (l.process event).toOption.getD l

def run (l : Lifecycle) (events : List Event) : Lifecycle := events.foldl after l

def accepted (l : Lifecycle) : List Event → List Event
  | [] => []
  | event :: rest =>
    if (l.process event).isOk then event :: (l.after event).accepted rest
    else (l.after event).accepted rest

theorem run_append (l : Lifecycle) (events later : List Event) :
    l.run (events ++ later) = (l.run events).run later := List.foldl_append

theorem accepted_append (l : Lifecycle) (events later : List Event) :
    l.accepted (events ++ later) = l.accepted events ++ (l.run events).accepted later := by
  induction events generalizing l with
  | nil => rfl
  | cons event rest ih =>
    rw [List.cons_append, accepted, accepted, ih]
    split <;> rfl

theorem run_concat_of_ok (moves : (l.run events).process event = .ok l') :
    l.run (events ++ [event]) = l' ∧ l.accepted (events ++ [event]) = l.accepted events ++ [event] := by
  constructor
  · rw [run_append, run, List.foldl_cons, List.foldl_nil, after, moves]
    rfl
  · simp [accepted_append, accepted, moves, Except.isOk, Except.toBool]

theorem run_concat_of_error {e : DeployError} (refused : (l.run events).process event = .error e) :
    l.run (events ++ [event]) = l.run events ∧ l.accepted (events ++ [event]) = l.accepted events := by
  constructor
  · rw [run_append, run, List.foldl_cons, List.foldl_nil, after, refused]
    rfl
  · rw [accepted_append, accepted, refused]
    simp [accepted, Except.isOk, Except.toBool]

/-- The last failure had this reason, and no later event has cleared or replaced it. -/
def Stands (reason : String) (past : List Event) : Prop :=
  ∃ before later, past = before ++ .submitFailed reason :: later ∧
    ∀ event ∈ later, event.replacesError = false

/-- A lifecycle is what its accepted events make of it, and each of them was to be accepted. -/
structure ToldBy (past : List Event) (l : Lifecycle) : Prop where
  stage : l.stage = stageAfter past.getLast?
  /-- The submissions since the last opening, in 32 bits. -/
  attempts : l.attempts = .ofNat ((past.rtakeWhile (· ≠ .open)).count .submit)
  lastError : ∀ reason, l.lastError = some reason ↔ Stands reason past
  follows : ∀ before event later, past = before ++ event :: later →
    event.mayFollow before.getLast? = true

/-- Events with one more are split at the last one, or at an earlier one. -/
theorem split_concat {e : Event} {before later : List Event}
    (parts : past ++ [event] = before ++ e :: later) :
    (before = past ∧ e = event) ∨
      ∃ rest, later = rest ++ [event] ∧ past = before ++ e :: rest := by
  rcases later.eq_nil_or_concat' with rfl | ⟨rest, last, rfl⟩
  · obtain ⟨rfl, same⟩ := List.append_inj' parts rfl
    exact .inl ⟨rfl, (List.head_eq_of_cons_eq same).symm⟩
  · rw [← List.cons_append, ← List.append_assoc] at parts
    obtain ⟨rfl, same⟩ := List.append_inj' parts rfl
    obtain rfl := List.head_eq_of_cons_eq same
    exact .inr ⟨rest, rfl, rfl⟩

theorem stands_concat :
    Stands reason (past ++ [event]) ↔
      if event.replacesError then event = .submitFailed reason else Stands reason past := by
  constructor
  · rintro ⟨before, later, parts, kept⟩
    obtain ⟨rfl, rfl⟩ | ⟨rest, rfl, rfl⟩ := split_concat parts
    · rfl
    · rw [kept event (by simp), if_neg Bool.false_ne_true]
      exact ⟨before, rest, rfl, fun e found => kept e (List.mem_append_left _ found)⟩
  · split
    · rintro rfl
      exact ⟨past, [], rfl, nofun⟩
    · rename_i keeps
      rintro ⟨before, later, rfl, kept⟩
      refine ⟨before, later ++ [event], by simp, ?_⟩
      intro e found
      obtain found | rfl := List.mem_append.mp found |>.imp_right List.mem_singleton.mp
      · exact kept e found
      · simpa using keeps

theorem ToldBy.next (told : ToldBy past l) (follows : event.mayFollow past.getLast? = true) :
    ToldBy (past ++ [event]) (l.moved event) := by
  constructor
  · rw [List.getLast?_concat]
    cases event <;> rfl
  · have attempts := told.attempts
    rw [List.rtakeWhile_concat]
    cases event <;> simp [moved, attempts, UInt32.ofNat_add]
  · intro reason
    rw [stands_concat]
    cases event <;> simp [moved, Event.replacesError, told.lastError]
  · intro before e later parts
    obtain ⟨rfl, rfl⟩ | ⟨rest, rfl, rfl⟩ := split_concat parts
    · exact follows
    · exact told.follows before e rest rfl

/-- A new lifecycle is told by its accepted events after every run. -/
theorem toldBy_accepted (events : List Event) :
    ToldBy (({} : Lifecycle).accepted events) (({} : Lifecycle).run events) := by
  induction events using List.reverseRecOn with
  | nil =>
    refine ⟨rfl, rfl, ?_, ?_⟩
    · intro reason
      simp [run, accepted, Stands]
    · intro before event later parts
      simp [accepted] at parts
  | append_singleton events event ih =>
    have step := process_eq ih.stage event
    split at step
    · rename_i follows
      obtain ⟨ran, kept⟩ := run_concat_of_ok step
      rw [ran, kept]
      exact ih.next follows
    · obtain ⟨ran, kept⟩ := run_concat_of_error step
      rw [ran, kept]
      exact ih

theorem accepted_sublist (l : Lifecycle) (events : List Event) :
    (l.accepted events).Sublist events := by
  induction events generalizing l with
  | nil => exact .slnil
  | cons event rest ih =>
    unfold accepted
    split
    · exact (ih _).cons_cons event
    · exact (ih _).cons event

theorem submissions_le (sublist : past.Sublist events) :
    (past.rtakeWhile (· ≠ .open)).count .submit ≤ events.count .submit :=
  ((List.rtakeWhile_suffix _ past).sublist.trans sublist).count_le _

theorem ToldBy.attempts_le (told : ToldBy past l) (sublist : past.Sublist events) :
    l.attempts.toNat ≤ events.count .submit := by
  rw [told.attempts, UInt32.toNat_ofNat']
  exact (Nat.mod_le _ _).trans (submissions_le sublist)

/-- The count of attempts does not overflow as long as there are fewer submissions than 32 bits
count. -/
theorem ToldBy.attempts_toNat (told : ToldBy past l) (sublist : past.Sublist events)
    (few : events.count .submit < UInt32.size) :
    l.attempts.toNat = (past.rtakeWhile (· ≠ .open)).count .submit := by
  rw [told.attempts, UInt32.toNat_ofNat']
  exact Nat.mod_eq_of_lt (Nat.lt_of_le_of_lt (submissions_le sublist) few)

/-- After every run the accepted events tell stage, attempts and error; there are no more attempts
than submissions, and they are counted exactly if the submissions can be counted in 32 bits. What an
accepted submission came to is the next event after it, and each such event has a submission right
before it. The last accepted event decides which events are accepted next; a refused one leaves
everything as it is. -/
theorem accepted_events_tell_lifecycle (events : List Event) :
    let l := run {} events
    let past := accepted {} events
    ToldBy past l ∧ l.attempts.toNat ≤ events.count .submit ∧
    (events.count .submit < UInt32.size →
      l.attempts.toNat = (past.rtakeWhile (· ≠ .open)).count .submit) ∧
    (∀ before outcome later, past = before ++ outcome :: later → outcome.isOutcome = true →
      ∃ earlier, before = earlier ++ [.submit]) ∧
    (∀ before next later, past = before ++ .submit :: next :: later → next.isOutcome = true) ∧
    ∀ event : Event,
      if event.mayFollow past.getLast? then
        l.process event = .ok (run {} (events ++ [event])) ∧
          accepted {} (events ++ [event]) = past ++ [event]
      else
        l.process event = .error (.transition (.notAllowed l.stage event)) ∧
          run {} (events ++ [event]) = l ∧ accepted {} (events ++ [event]) = past := by
  have told := toldBy_accepted events
  have sublist := accepted_sublist {} events
  refine ⟨told, told.attempts_le sublist, told.attempts_toNat sublist, ?_, ?_, ?_⟩
  · intro before outcome later parts answers
    have last := Event.eq_submit_of_mayFollow answers (told.follows before outcome later parts)
    exact List.getLast?_eq_some_iff.mp last
  · intro before next later parts
    have follows := told.follows (before ++ [.submit]) next later (by simp [parts])
    rw [List.getLast?_concat] at follows
    exact Event.isOutcome_of_mayFollow follows
  · intro event
    have step := process_eq told.stage event
    split
    · rename_i follows
      rw [if_pos follows] at step
      obtain ⟨ran, kept⟩ := run_concat_of_ok step
      exact ⟨ran ▸ step, kept⟩
    · rename_i refused
      rw [if_neg refused] at step
      exact ⟨step, run_concat_of_error step⟩

end Lifecycle
end FleetRollout.Wizard
