/-! Programs that ask the outside world questions, as finite trees of questions and continuations.
A program says nothing about who answers: `interpret` lets a monad answer, `Runs` any answers at
all. -/
namespace FleetRollout

/-- The questions a program may ask, and what an answer to each of them is. -/
structure Interface where
  Question : Type
  Answer : Question → Type

/-- A program with a result: it ends, or asks a question and goes on with the answer. -/
inductive Dialogue (I : Interface) (α : Type) where
  | done (result : α)
  | ask (question : I.Question) (next : I.Answer question → Dialogue I α)

namespace Dialogue
variable {I J : Interface} {α β : Type}

protected def bind : Dialogue I α → (α → Dialogue I β) → Dialogue I β
  | .done a, f => f a
  | .ask q next, f => .ask q fun answer => (next answer).bind f

instance : Monad (Dialogue I) where
  pure := .done
  bind := .bind

@[simp] theorem done_bind (a : α) (f : α → Dialogue I β) : (done a >>= f) = f a := rfl

@[simp] theorem pure_eq_done (a : α) : (pure a : Dialogue I α) = done a := rfl

@[simp] theorem ask_bind (q : I.Question) (next : I.Answer q → Dialogue I α)
    (f : α → Dialogue I β) : (ask q next >>= f) = ask q fun a => next a >>= f := rfl

theorem bind_done (p : Dialogue I α) : p >>= done = p := by
  induction p with
  | done => rfl
  | ask q next ih => simp [ih]

theorem bind_assoc {γ : Type} (p : Dialogue I α) (f : α → Dialogue I β) (g : β → Dialogue I γ) :
    p >>= f >>= g = p >>= fun a => f a >>= g := by
  induction p with
  | done => rfl
  | ask q next ih => simp [ih]

instance : LawfulMonad (Dialogue I) :=
  .mk' (Dialogue I) bind_done (fun _ _ => rfl) bind_assoc

def query (q : I.Question) : Dialogue I (I.Answer q) := .ask q .done

@[simp] theorem query_bind (q : I.Question) (f : I.Answer q → Dialogue I α) :
    (query q >>= f) = ask q f := rfl

def interpret [Monad m] (answer : (q : I.Question) → m (I.Answer q)) : Dialogue I α → m α
  | .done a => pure a
  | .ask q next => do interpret answer (next (← answer q))

/-- A program that asks other questions instead, by a program for each question. -/
def relay (answer : (q : I.Question) → Dialogue J (I.Answer q)) : Dialogue I α → Dialogue J α :=
  interpret answer

/-- A question with the answer that was given. -/
structure Exchange (I : Interface) where
  question : I.Question
  answer : I.Answer question

/-- A program can end with a result after some exchanges. -/
inductive Runs : Dialogue I α → List (Exchange I) → α → Prop where
  | done (a : α) : Runs (.done a) [] a
  | ask {q : I.Question} {next : I.Answer q → Dialogue I α} {es : List (Exchange I)} {a : α}
      (answer : I.Answer q) (rest : Runs (next answer) es a) :
      Runs (.ask q next) (⟨q, answer⟩ :: es) a

@[simp] theorem runs_done {a b : α} {es : List (Exchange I)} :
    (done a : Dialogue I α).Runs es b ↔ es = [] ∧ b = a := by
  constructor
  · intro runs
    cases runs
    exact ⟨rfl, rfl⟩
  · rintro ⟨rfl, rfl⟩
    exact .done b

theorem runs_query {q : I.Question} {es : List (Exchange I)} {a : I.Answer q} :
    (query q).Runs es a ↔ es = [⟨q, a⟩] := by
  constructor
  · intro runs
    cases runs with
    | ask answer rest =>
      obtain ⟨rfl, rfl⟩ := runs_done.mp rest
      rfl
  · rintro rfl
    exact .ask a (.done a)

theorem runs_bind {p : Dialogue I α} {f : α → Dialogue I β} {es : List (Exchange I)} {b : β} :
    (p >>= f).Runs es b ↔
      ∃ first a rest, p.Runs first a ∧ (f a).Runs rest b ∧ es = first ++ rest := by
  induction p generalizing es with
  | done a =>
    constructor
    · intro runs
      exact ⟨[], a, es, .done a, runs, rfl⟩
    · rintro ⟨first, a', rest, runs, later, rfl⟩
      obtain ⟨rfl, rfl⟩ := runs_done.mp runs
      exact later
  | ask q next ih =>
    constructor
    · intro runs
      cases runs with
      | ask answer rest =>
        obtain ⟨first, a, last, runs, later, rfl⟩ := (ih answer).mp rest
        exact ⟨_, a, last, .ask answer runs, later, rfl⟩
    · rintro ⟨first, a, last, runs, later, rfl⟩
      cases runs with
      | ask answer rest => exact .ask answer ((ih answer).mpr ⟨_, a, last, rest, later, rfl⟩)

theorem Runs.andThen {p : Dialogue I α} {f : α → Dialogue I β} {es : List (Exchange I)} {a : α}
    {b : β} (runs : p.Runs es a) (ends : f a = .done b) : (p >>= f).Runs es b := by
  induction runs with
  | done a =>
    rw [done_bind, ends]
    exact .done b
  | ask answer _ ih => exact .ask answer (ih ends)

/-- A property of the result whatever the answers are. -/
def Always (P : α → Prop) : Dialogue I α → Prop
  | .done a => P a
  | .ask _ next => ∀ answer, (next answer).Always P

theorem always_iff {P : α → Prop} {p : Dialogue I α} :
    p.Always P ↔ ∀ es a, p.Runs es a → P a := by
  induction p with
  | done b =>
    exact ⟨fun h es a run => by cases run; exact h, fun h => h [] b (.done b)⟩
  | ask q next ih =>
    constructor
    · intro h es a run
      cases run with
      | ask answer rest => exact (ih answer).1 (h answer) _ _ rest
    · intro h answer
      exact (ih answer).2 fun es a run => h _ a (.ask answer run)

theorem always_bind {P : β → Prop} {p : Dialogue I α} {f : α → Dialogue I β} :
    (p >>= f).Always P ↔ p.Always fun a => (f a).Always P := by
  induction p with
  | done => rfl
  | ask q next ih => exact forall_congr' ih

@[simp] theorem always_done {P : α → Prop} (a : α) : (done a : Dialogue I α).Always P ↔ P a :=
  Iff.rfl

theorem Always.imp {P Q : α → Prop} {p : Dialogue I α} (always : p.Always P)
    (implies : ∀ a, P a → Q a) : p.Always Q := by
  rw [always_iff] at always ⊢
  exact fun es a run => implies a (always es a run)

/-- A property of the exchanges and the result whatever the answers are. -/
def Ensures (P : List (Exchange I) → α → Prop) : Dialogue I α → Prop
  | .done a => P [] a
  | .ask q next => ∀ answer, (next answer).Ensures fun es a => P (⟨q, answer⟩ :: es) a

theorem ensures_iff {P : List (Exchange I) → α → Prop} {p : Dialogue I α} :
    p.Ensures P ↔ ∀ es a, p.Runs es a → P es a := by
  induction p generalizing P with
  | done b =>
    exact ⟨fun h es a run => by cases run; exact h, fun h => h [] b (.done b)⟩
  | ask q next ih =>
    constructor
    · intro h es a run
      cases run with
      | ask answer rest => exact (ih answer).1 (h answer) _ _ rest
    · intro h answer
      exact (ih answer).2 fun es a run => h _ a (.ask answer run)

theorem Ensures.imp {P Q : List (Exchange I) → α → Prop} {p : Dialogue I α} (ensures : p.Ensures P)
    (implies : ∀ es a, P es a → Q es a) : p.Ensures Q := by
  rw [ensures_iff] at ensures ⊢
  exact fun es a run => implies es a (ensures es a run)

theorem ensures_bind {P : List (Exchange I) → β → Prop} {p : Dialogue I α}
    {f : α → Dialogue I β} :
    (p >>= f).Ensures P ↔ p.Ensures fun es a => (f a).Ensures fun es' b => P (es ++ es') b := by
  induction p generalizing P with
  | done => rfl
  | ask q next ih => exact forall_congr' fun answer => ih answer

@[simp] theorem ensures_done {P : List (Exchange I) → α → Prop} (a : α) :
    (done a : Dialogue I α).Ensures P ↔ P [] a := Iff.rfl

/-- Every question that can come up, whatever the answers are, is of this kind. -/
def Asks (kind : I.Question → Prop) : Dialogue I α → Prop
  | .done _ => True
  | .ask q next => kind q ∧ ∀ answer, (next answer).Asks kind

variable {kind : I.Question → Prop}

theorem Asks.bind {p : Dialogue I α} {f : α → Dialogue I β} (first : p.Asks kind)
    (rest : ∀ a, (f a).Asks kind) : (p >>= f).Asks kind := by
  induction p with
  | done a => exact rest a
  | ask q next ih => exact ⟨first.1, fun answer => ih answer (first.2 answer)⟩

theorem Asks.exchanges {p : Dialogue I α} (asks : p.Asks kind) (runs : p.Runs es a) :
    ∀ e ∈ es, kind e.question := by
  induction runs with
  | done => nofun
  | ask answer _ ih =>
    intro e found
    obtain rfl | found := List.mem_cons.mp found
    · exact asks.1
    · exact ih (asks.2 answer) e found

end Dialogue
end FleetRollout
