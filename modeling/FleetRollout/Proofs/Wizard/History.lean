import FleetRollout.Proofs.Wizard.Change
import FleetRollout.Wizard.World

/-! Histories of a wizard: its operations in any order, with any answers of the management API, and
between them whatever others do who hold a handle on the guard. -/
namespace FleetRollout.Wizard

inductive GuardUse where
  | acquire
  | release
  | reset
deriving DecidableEq, Repr

/-- The guard afterwards; an attempt to pass that is refused changes nothing. -/
def GuardUse.after (guard : Guard) : GuardUse → Guard
  | acquire => guard.acquire?.getD guard
  | release => guard.release
  | reset => guard.reset

inductive Move where
  /-- An operation with all that it asked, the answers, and what it gave back. -/
  | perform (operation : Operation) (exchanges : List (Dialogue.Exchange interface))
      (reply : Reply)
  | guard (use : GuardUse)

/-- The moves of a wizard and what they lead to. -/
inductive Step (w : Wizard) : Move → Wizard → Prop where
  | perform {operation : Operation} {exchanges : List (Dialogue.Exchange interface)}
      {reply : Reply} {w' : Wizard}
      (runs : (w.perform operation).Runs exchanges (reply, w')) :
      Step w (.perform operation exchanges reply) w'
  | guard (use : GuardUse) : Step w (.guard use) { w with guard := use.after w.guard }

theorem Step.effect {w w' : Wizard} {operation : Operation}
    {exchanges : List (Dialogue.Exchange interface)} {reply : Reply}
    (step : Step w (.perform operation exchanges reply) w') : Effect w operation reply w' := by
  cases step with
  | perform runs => exact Dialogue.always_iff.mp (perform_effect w operation) _ _ runs

theorem Step.change {w w' : Wizard} (step : Step w move w') : Change w w' := by
  cases step with
  | perform runs => exact (Step.effect (.perform runs)).change
  | guard use => exact .processed w.lifecycle _

/-- A move between the wizards before and after it. -/
structure Turn where
  before : Wizard
  move : Move
  after : Wizard

/-- The turns that lead from one wizard to another, the last one at the end. -/
inductive History (start : Wizard) : List Turn → Wizard → Prop where
  | start : History start [] start
  | next {turns : List Turn} {w w' : Wizard} {move : Move} (history : History start turns w)
      (step : Step w move w') : History start (turns ++ [⟨w, move, w'⟩]) w'

namespace History
variable {start w w' : Wizard} {turns later : List Turn}

theorem trans (history : History start turns w) (rest : History w later w') :
    History start (turns ++ later) w' := by
  induction rest with
  | start => simpa using history
  | next _ step ih => simpa only [List.append_assoc] using History.next ih step

/-- What every change keeps holds at the end of a history if it holds at the start. -/
theorem invariant {P : Wizard → Prop} (keeps : ∀ {w w'}, P w → Change w w' → P w')
    (history : History start turns w) (initial : P start) : P w := by
  induction history with
  | start => exact initial
  | next _ step ih => exact keeps ih step.change

/-- What every step keeps of a record of the turns so far holds of the record of a history. -/
theorem recorded {β : Type} {record : β → Turn → β} {first : β} {P : β → Wizard → Prop}
    (initial : P first start)
    (keeps : ∀ {before w move w'}, P before w → Step w move w' →
      P (record before ⟨w, move, w'⟩) w')
    (history : History start turns w) : P (turns.foldl record first) w := by
  induction history with
  | start => exact initial
  | next _ step ih =>
    rw [List.foldl_append]
    exact keeps ih step

/-- A history up to one of its turns, and that turn. -/
theorem split {earlier : List Turn} {turn : Turn} (history : History start turns w)
    (parts : turns = earlier ++ turn :: later) :
    History start earlier turn.before ∧ Step turn.before turn.move turn.after := by
  induction history generalizing later with
  | start => simp at parts
  | @next turns w w' move before step ih =>
    obtain rfl | ⟨later, last, rfl⟩ := later.eq_nil_or_concat
    · obtain ⟨rfl, same⟩ := List.append_inj' parts rfl
      obtain rfl := List.head_eq_of_cons_eq same
      exact ⟨before, step⟩
    · rw [List.concat_eq_append, ← List.cons_append, ← List.append_assoc] at parts
      exact ih (List.append_inj' parts rfl).1

/-- Every turn of a history is a step. -/
theorem step_of_mem {turn : Turn} (history : History start turns w) (member : turn ∈ turns) :
    Step turn.before turn.move turn.after := by
  obtain ⟨earlier, later, parts⟩ := List.append_of_mem member
  exact (history.split parts).2

end History

/-- Some history leads from a new wizard to this one. -/
def Reachable (w : Wizard) : Prop := ∃ options turns, History (new options) turns w

theorem Reachable.invariant {P : Wizard → Prop} (initial : ∀ options, P (new options))
    (keeps : ∀ {w w'}, P w → Change w w' → P w') {w : Wizard} (reachable : Reachable w) : P w := by
  obtain ⟨options, _, history⟩ := reachable
  exact history.invariant keeps (initial options)

namespace World

def play (world : World) (w : Wizard) : List Operation → Wizard
  | [] => w
  | operation :: rest =>
    let ((_, w'), world') := world.run (w.perform operation)
    play world' w' rest

def exchanges (world : World) : Program α → List (Dialogue.Exchange interface)
  | .done _ => []
  | .ask q next =>
    ⟨q, (world.answer q).1⟩ :: (world.answer q).2.exchanges (next (world.answer q).1)

theorem exchanges_runs (world : World) (p : Program α) :
    p.Runs (world.exchanges p) (world.run p).1 := by
  induction p generalizing world with
  | done a => exact .done a
  | ask q next ih =>
    have rest := ih (world.answer q).1 (world.answer q).2
    exact @Dialogue.Runs.ask interface _ q next _ _ (world.answer q).1 rest

/-- What a program gives in a world it can give. -/
theorem runs_run (world : World) (p : Program α) :
    ∃ exchanges, p.Runs exchanges (world.run p).1 := ⟨_, world.exchanges_runs p⟩

def turns (world : World) (w : Wizard) : List Operation → List Turn
  | [] => []
  | operation :: rest =>
    let ((reply, w'), world') := world.run (w.perform operation)
    ⟨w, .perform operation (world.exchanges (w.perform operation)) reply, w'⟩ ::
      turns world' w' rest

theorem turns_history (world : World) (w : Wizard) (operations : List Operation) :
    History w (world.turns w operations) (world.play w operations) := by
  induction operations generalizing world w with
  | nil => exact .start
  | cons operation rest ih =>
    have first := History.next .start (Step.perform (world.exchanges_runs (w.perform operation)))
    exact first.trans (ih (world.run (w.perform operation)).2 (world.run (w.perform operation)).1.2)

theorem play_history (world : World) (w : Wizard) (operations : List Operation) :
    ∃ turns, History w turns (world.play w operations) := ⟨_, world.turns_history w operations⟩

theorem reachable_play (world : World) (options : Options) (operations : List Operation) :
    Reachable (world.play (new options) operations) := by
  obtain ⟨turns, history⟩ := play_history world (new options) operations
  exact ⟨options, turns, history⟩

end World
end FleetRollout.Wizard
