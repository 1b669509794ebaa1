import FleetRollout.CommandLine.Session

/-! How a run follows from its parts: parts in a row, parts that may end it early, and parts that
speak to an interface of their own and are relayed. -/
namespace FleetRollout

namespace Dialogue
variable {I J : Interface} {α β : Type}

/-- Exchanges on one interface, and those on another one that they were relayed to. -/
inductive Relayed (answer : (q : I.Question) → Dialogue J (I.Answer q)) :
    List (Exchange I) → List (Exchange J) → Prop where
  | nil : Relayed answer [] []
  | cons {e : Exchange I} {block : List (Exchange J)} {es : List (Exchange I)}
      {later : List (Exchange J)} (asked : (answer e.question).Runs block e.answer)
      (rest : Relayed answer es later) : Relayed answer (e :: es) (block ++ later)

variable {answer : (q : I.Question) → Dialogue J (I.Answer q)} {p : Dialogue I α} {a : α}

theorem Runs.relayed {js : List (Exchange J)} (runs : (relay answer p).Runs js a) :
    ∃ es, p.Runs es a ∧ Relayed answer es js := by
  induction p generalizing js with
  | done b =>
    obtain ⟨rfl, rfl⟩ := runs_done.mp runs
    exact ⟨[], .done a, .nil⟩
  | ask q next ih =>
    obtain ⟨block, given, later, asked, rest, rfl⟩ := runs_bind.mp runs
    obtain ⟨es, inner, relayed⟩ := ih given rest
    exact ⟨_, .ask given inner, .cons asked relayed⟩

theorem Always.relay {P : α → Prop} (always : p.Always P) : (relay answer p).Always P := by
  apply always_iff.mpr
  intro js a runs
  obtain ⟨es, inner, _⟩ := runs.relayed
  exact always_iff.mp always es a inner

theorem Asks.relay {kind : I.Question → Prop} {other : J.Question → Prop} (asks : p.Asks kind)
    (each : ∀ q, kind q → (answer q).Asks other) : (relay answer p).Asks other := by
  induction p with
  | done b => trivial
  | ask q next ih => exact (each q asks.1).bind fun given => ih given (asks.2 given)

theorem Asks.imp {kind other : I.Question → Prop} (asks : p.Asks kind)
    (implies : ∀ q, kind q → other q) : p.Asks other := by
  induction p with
  | done b => trivial
  | ask q next ih => exact ⟨implies q asks.1, fun given => ih given (asks.2 given)⟩

end Dialogue

namespace CommandLine
variable {α β : Type} {x : Attempt α} {f : α → Attempt β} {es : List (Dialogue.Exchange interface)}

theorem run_bind : (x >>= f).run = x.run >>= fun
    | .ok a => (f a).run
    | .error failure => .done (.error failure) := by
  change (x.run >>= ExceptT.bindCont f) = _
  apply bind_congr
  intro ended
  cases ended <;> rfl

theorem runs_then {r : Except Failure β} :
    (x >>= f).run.Runs es r ↔
      (∃ failure, x.run.Runs es (.error failure) ∧ r = .error failure) ∨
      ∃ first a rest, x.run.Runs first (.ok a) ∧ (f a).run.Runs rest r ∧ es = first ++ rest := by
  rw [run_bind, Dialogue.runs_bind]
  constructor
  · rintro ⟨first, ended, rest, runs, later, rfl⟩
    cases ended with
    | error failure =>
      obtain ⟨rfl, rfl⟩ := Dialogue.runs_done.mp later
      exact .inl ⟨failure, by simpa using runs, rfl⟩
    | ok a => exact .inr ⟨first, a, rest, runs, later, rfl⟩
  · rintro (⟨failure, runs, rfl⟩ | ⟨first, a, rest, runs, later, rfl⟩)
    · exact ⟨es, .error failure, [], runs, .done _, by simp⟩
    · exact ⟨first, .ok a, rest, runs, later, rfl⟩

theorem asks_then {kind : Question → Prop} (first : x.run.Asks kind)
    (rest : ∀ a, (f a).run.Asks kind) : (x >>= f).run.Asks kind := by
  rw [run_bind]
  apply first.bind
  intro ended
  cases ended with
  | ok a => exact rest a
  | error failure => trivial

theorem runs_perform {p : Program α} {r : Except Failure α} :
    (perform p).run.Runs es r ↔ ∃ a, p.Runs es a ∧ r = .ok a := by
  change (p >>= fun a => .done (.ok a)).Runs es r ↔ _
  rw [Dialogue.runs_bind]
  constructor
  · rintro ⟨first, a, rest, runs, later, rfl⟩
    obtain ⟨rfl, rfl⟩ := Dialogue.runs_done.mp later
    exact ⟨a, by simpa using runs, rfl⟩
  · rintro ⟨a, runs, rfl⟩
    exact ⟨es, a, [], runs, .done _, by simp⟩

/-- A part that does not end the run, and the rest of it. -/
theorem runs_perform_then {p : Program α} {r : Except Failure β} :
    (perform p >>= f).run.Runs es r ↔
      ∃ first a rest, p.Runs first a ∧ (f a).run.Runs rest r ∧ es = first ++ rest := by
  rw [runs_then]
  constructor
  · rintro (⟨failure, runs, rfl⟩ | ⟨first, a, rest, runs, later, rfl⟩)
    · obtain ⟨a, _, impossible⟩ := runs_perform.mp runs
      contradiction
    · obtain ⟨_, runs, ⟨⟩⟩ := runs_perform.mp runs
      exact ⟨first, a, rest, runs, later, rfl⟩
  · rintro ⟨first, a, rest, runs, later, rfl⟩
    exact .inr ⟨first, a, rest, runs_perform.mpr ⟨a, runs, rfl⟩, later, rfl⟩

theorem asks_perform {kind : Question → Prop} {p : Program α} (asks : p.Asks kind) :
    (perform p).run.Asks kind := asks.bind fun _ => trivial

/-- A value that is there, and the rest of the run; without it the run is over. -/
theorem runs_done_then {ended : Except Failure α} {r : Except Failure β} :
    ((ExceptT.mk (.done ended) : Attempt α) >>= f).run.Runs es r ↔
      (∃ failure, ended = .error failure ∧ es = [] ∧ r = .error failure) ∨
      ∃ a, ended = .ok a ∧ (f a).run.Runs es r := by
  cases ended with
  | ok a =>
    constructor
    · intro runs
      exact .inr ⟨a, rfl, runs⟩
    · rintro (⟨_, impossible, _⟩ | ⟨_, ⟨⟩, runs⟩)
      · contradiction
      · exact runs
  | error failure =>
    constructor
    · intro runs
      obtain ⟨rfl, rfl⟩ := Dialogue.runs_done.mp runs
      exact .inl ⟨failure, rfl, rfl, rfl⟩
    · rintro (⟨_, ⟨⟩, rfl, rfl⟩ | ⟨_, impossible, _⟩)
      · exact .done _
      · contradiction

/-- Whatever is answered, a part that does not end the run leaves a result of this kind. -/
def Yields (P : α → Prop) (x : Attempt α) : Prop :=
  x.run.Always fun ended => ∀ a, ended = .ok a → P a

theorem Yields.bind {P : β → Prop} {Q : α → Prop} (first : Yields Q x)
    (rest : ∀ a, Q a → Yields P (f a)) : Yields P (x >>= f) := by
  unfold Yields
  rw [run_bind]
  apply Dialogue.always_bind.mpr
  apply Dialogue.Always.imp first
  intro ended yields
  cases ended with
  | ok a => exact rest a (yields a rfl)
  | error failure => simp

theorem yields_perform {P : α → Prop} {p : Program α} (always : p.Always P) :
    Yields P (perform p) := by
  apply Dialogue.always_bind.mpr
  apply always.imp
  rintro a holds _ ⟨⟩
  exact holds

theorem yields_check {P : α → Prop} {r : Except DeployError α} (holds : ∀ a, r = .ok a → P a) :
    Yields P (check r) := by
  cases r with
  | ok a =>
    rintro _ ⟨⟩
    exact holds a rfl
  | error e =>
    intro a impossible
    contradiction

/-- A change of a wizard asks for nothing, and ends the run where it is refused. -/
theorem runs_changed {r : Except DeployError Unit × Wizard} {ended : Except Failure Wizard} :
    (changed r).run.Runs es ended ↔ es = [] ∧ ended = (r.1.map fun _ => r.2).mapError .error := by
  obtain ⟨e | _, w⟩ := r
  · exact Dialogue.runs_done
  · exact Dialogue.runs_done

theorem asks_changed {kind : Question → Prop} (r : Except DeployError Unit × Wizard) :
    (changed r).run.Asks kind := by
  obtain ⟨e | _, w⟩ := r <;> trivial

theorem yields_changed {P : Wizard → Prop} {r : Except DeployError Unit × Wizard}
    (holds : r.1 = .ok () → P r.2) : Yields P (changed r) := by
  obtain ⟨e | _, w⟩ := r
  · intro w' impossible
    contradiction
  · rintro _ ⟨⟩
    exact holds rfl

end CommandLine
end FleetRollout
