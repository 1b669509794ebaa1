import FleetRollout.Wizard.Guard
import Mathlib.Data.List.Induction

/-! Who holds the tokens of a guard. Until somebody gives up a token from before a reset while a
newer one is held, at most one token from after the reset is held, and the guard is free exactly
while there is none. A token that is given up that late frees the guard under its new holder. -/
namespace FleetRollout.Wizard.Guard

variable {g : Guard}

theorem acquire?_of_free (free : g.inFlight = false) : g.acquire? = some ⟨true⟩ := by
  simp [acquire?, free]

theorem acquire?_of_inFlight (busy : g.inFlight = true) : g.acquire? = none := by
  simp [acquire?, busy]

/-- What can be done with a guard and its tokens. All handles on a guard share its flag, so it is of
no account through which of them somebody passes. -/
inductive Use where
  | acquire
  | release (token : Nat)
  | reset
deriving DecidableEq, Repr

/-- A guard and the tokens that are held, numbered in the order in which they were handed out. -/
structure Custody where
  guard : Guard := {}
  /-- Those from after the last reset. -/
  current : List Nat := []
  /-- Those from before it. -/
  former : List Nat := []
  issued : Nat := 0
deriving DecidableEq, Repr

namespace Custody

/-- An attempt to pass that is refused changes nothing. -/
def acquire (c : Custody) : Custody :=
  match c.guard.acquire? with
  | none => c
  | some guard =>
    { c with guard := guard, current := c.issued :: c.current, issued := c.issued + 1 }

/-- Only a token that is held can be given up. -/
def release (c : Custody) (token : Nat) : Custody :=
  if token ∈ c.current then
    { c with guard := c.guard.release, current := c.current.erase token }
  else if token ∈ c.former then
    { c with guard := c.guard.release, former := c.former.erase token }
  else c

def reset (c : Custody) : Custody :=
  { c with guard := c.guard.reset, current := [], former := c.current ++ c.former }

def after (c : Custody) : Use → Custody
  | .acquire => c.acquire
  | .release token => c.release token
  | .reset => c.reset

def run (uses : List Use) : Custody := uses.foldl after {}

variable {c : Custody}

theorem run_concat (past : List Use) (use : Use) :
    run (past ++ [use]) = (run past).after use := List.foldl_append

theorem run_invariant {P : Custody → Prop} (initial : P {})
    (keeps : ∀ {c}, P c → ∀ use, P (c.after use)) (uses : List Use) : P (run uses) := by
  induction uses using List.reverseRecOn with
  | nil => exact initial
  | append_singleton uses use ih =>
    rw [run_concat]
    exact keeps ih use

theorem acquire_of_free (free : c.guard.inFlight = false) :
    c.acquire = { c with
      guard := ⟨true⟩, current := c.issued :: c.current, issued := c.issued + 1 } := by
  simp [acquire, acquire?_of_free free]

theorem acquire_of_inFlight (busy : c.guard.inFlight = true) : c.acquire = c := by
  simp [acquire, acquire?_of_inFlight busy]

structure Distinct (c : Custody) : Prop where
  nodup : (c.current ++ c.former).Nodup
  issued : ∀ token ∈ c.current ++ c.former, token < c.issued

theorem Distinct.of_sublist {d : Custody} (distinct : c.Distinct)
    (fewer : (d.current ++ d.former).Sublist (c.current ++ c.former))
    (counter : d.issued = c.issued) : d.Distinct := by
  constructor
  · exact distinct.nodup.sublist fewer
  · intro token held
    rw [counter]
    exact distinct.issued token (fewer.subset held)

theorem Distinct.acquire (distinct : c.Distinct) : c.acquire.Distinct := by
  cases busy : c.guard.inFlight with
  | true => rwa [acquire_of_inFlight busy]
  | false =>
    rw [acquire_of_free busy]
    constructor
    · have fresh : c.issued ∉ c.current ++ c.former := by
        intro held
        exact Nat.lt_irrefl _ (distinct.issued _ held)
      exact List.nodup_cons.mpr ⟨fresh, distinct.nodup⟩
    · intro token held
      obtain rfl | held := List.mem_cons.mp held
      · exact Nat.lt_succ_self _
      · exact Nat.lt_succ_of_lt (distinct.issued token held)

theorem Distinct.release (distinct : c.Distinct) (token : Nat) : (c.release token).Distinct := by
  unfold Custody.release
  split
  · exact distinct.of_sublist (List.erase_sublist.append_right c.former) rfl
  · split
    · exact distinct.of_sublist (List.erase_sublist.append_left c.current) rfl
    · exact distinct

theorem Distinct.after (distinct : c.Distinct) (use : Use) : (c.after use).Distinct := by
  cases use with
  | acquire => exact distinct.acquire
  | release token => exact distinct.release token
  | reset => exact distinct.of_sublist (.refl _) rfl

theorem run_distinct (uses : List Use) : (run uses).Distinct :=
  run_invariant ⟨.nil, nofun⟩ Distinct.after uses

def Covered (c : Custody) : Prop := c.guard.inFlight = true → c.current ≠ []

theorem Covered.acquire (covered : c.Covered) : c.acquire.Covered := by
  cases busy : c.guard.inFlight with
  | true => rwa [acquire_of_inFlight busy]
  | false =>
    rw [acquire_of_free busy]
    exact fun _ => List.cons_ne_nil _ _

theorem Covered.release (covered : c.Covered) (token : Nat) : (c.release token).Covered := by
  unfold Custody.release
  split
  · nofun
  · split
    · nofun
    · exact covered

theorem Covered.after (covered : c.Covered) (use : Use) : (c.after use).Covered := by
  cases use with
  | acquire => exact covered.acquire
  | release token => exact covered.release token
  | reset => nofun

theorem run_covered (uses : List Use) : (run uses).Covered :=
  run_invariant nofun Covered.after uses

theorem Covered.acquire?_isSome (covered : c.Covered) (none : c.current = []) :
    c.guard.acquire?.isSome = true := by
  cases busy : c.guard.inFlight with
  | true => exact absurd none (covered busy)
  | false => rw [acquire?_of_free busy, Option.isSome_some]

/-- While a token from after the last reset is held, it is the only one and the guard lets nobody
pass; otherwise it does. -/
structure Exclusive (c : Custody) : Prop where
  single : c.current.length ≤ 1
  busy : c.current ≠ [] → c.guard.inFlight = true ∧ c.guard.acquire? = none
  free : c.current = [] → c.guard.acquire?.isSome = true

/-- A token from before the last reset is given up while one from after it is held. -/
def LateRelease (c : Custody) (use : Use) : Prop :=
  ∃ token, use = .release token ∧ token ∈ c.former ∧ c.current ≠ []

theorem exclusive_of_free (none : c.current = []) (free : c.guard.inFlight = false) :
    c.Exclusive := by
  constructor
  · simp [none]
  · intro held
    contradiction
  · intro _
    rw [acquire?_of_free free, Option.isSome_some]

theorem exclusive_reset (c : Custody) : c.reset.Exclusive := exclusive_of_free rfl rfl

theorem Exclusive.acquire (exclusive : c.Exclusive) : c.acquire.Exclusive := by
  cases busy : c.guard.inFlight with
  | true => rwa [acquire_of_inFlight busy]
  | false =>
    have none : c.current = [] := by
      by_contra held
      have taken := (exclusive.busy held).1
      rw [busy] at taken
      contradiction
    rw [acquire_of_free busy]
    constructor
    · simp [none]
    · exact fun _ => ⟨rfl, rfl⟩
    · nofun

theorem Exclusive.release {token : Nat} (exclusive : c.Exclusive)
    (timely : token ∈ c.former → c.current = []) : (c.release token).Exclusive := by
  unfold Custody.release
  split
  · rename_i held
    -- It is the only current token.
    have none : c.current.erase token = [] := by
      have left := List.length_erase_of_mem held
      have single := exclusive.single
      exact List.length_eq_zero_iff.mp (by omega)
    exact exclusive_of_free none rfl
  · split
    · rename_i old
      exact exclusive_of_free (timely old) rfl
    · exact exclusive

theorem Exclusive.after {use : Use} (exclusive : c.Exclusive) (timely : ¬ c.LateRelease use) :
    (c.after use).Exclusive := by
  cases use with
  | acquire => exact exclusive.acquire
  | release token =>
    refine exclusive.release ?_
    intro old
    by_contra held
    exact timely ⟨token, rfl, old, held⟩
  | reset => exact exclusive_reset c

/-- The token that is held has lost the guard. -/
theorem Distinct.not_exclusive_after {use : Use} (distinct : c.Distinct)
    (late : c.LateRelease use) : ¬ (c.after use).Exclusive := by
  obtain ⟨token, rfl, old, held⟩ := late
  have other : token ∉ c.current := by
    intro current
    exact (List.nodup_append.mp distinct.nodup).2.2 token current token old rfl
  intro exclusive
  rw [Custody.after, Custody.release, if_neg other, if_pos old] at exclusive
  have busy := (exclusive.busy held).1
  contradiction

/-- A guard without a token from after the last reset lets somebody pass. From a reset on it is for
one token at a time, until a token from before the reset is given up while a newer one is held: at
the moment after that it is not. -/
theorem exclusive_until_late_release (past uses : List Use) :
    ((run past).current = [] → (run past).guard.acquire?.isSome = true) ∧
    (run []).Exclusive ∧ (run (past ++ [.reset])).Exclusive ∧
    ((run past).Exclusive →
      ((∀ earlier, earlier <+: uses → (run (past ++ earlier)).Exclusive) ↔
        ∀ earlier use, earlier ++ [use] <+: uses → ¬ (run (past ++ earlier)).LateRelease use)) := by
  refine ⟨(run_covered past).acquire?_isSome, exclusive_of_free rfl rfl, ?_, ?_⟩
  · rw [run_concat]
    exact exclusive_reset _
  · intro exclusive
    constructor
    · intro throughout earlier use next late
      have after := throughout (earlier ++ [use]) next
      rw [← List.append_assoc, run_concat] at after
      exact (run_distinct _).not_exclusive_after late after
    · intro timely earlier next
      induction earlier using List.reverseRecOn with
      | nil => rwa [List.append_nil]
      | append_singleton earlier use ih =>
        have before := ih ((List.prefix_append _ _).trans next)
        rw [← List.append_assoc, run_concat]
        exact before.after (timely earlier use next)

/-- The first holder's token frees the guard under the second one, and a third one passes. -/
theorem not_exclusive : ¬ ∀ uses, (run uses).Exclusive := by
  intro exclusive
  have single := (exclusive [.acquire, .reset, .acquire, .release 0, .acquire]).single
  have two : (run [.acquire, .reset, .acquire, .release 0, .acquire]).current = [2, 1] := by decide
  rw [two] at single
  contradiction

end Custody
end FleetRollout.Wizard.Guard
