import FleetRollout.Proofs.Rollout.Starts
import Mathlib.Algebra.GroupWithZero.Nat
import Mathlib.Data.Nat.Find

/-! Starts of phases, each told on its own. A phase is counted from the last phase up to it that has
a start of its own, and the delays from there on add up. -/
namespace FleetRollout.Rollout

def ownStart? (phases : List Phase) (i : Nat) : Option Instant := phases[i]?.bind Phase.start

/-- The place of the phase that a phase is counted from: the last one up to it with a start of its
own, and the first one if there is none. -/
def anchor (phases : List Phase) (i : Nat) : Nat :=
  Nat.findGreatest (fun k => (ownStart? phases k).isSome = true) i

def base (phases : List Phase) (now : Instant) (i : Nat) : Instant :=
  (ownStart? phases (anchor phases i)).getD now

/-- The seconds that the next phase waits for this one. -/
def wait (phase : Phase) : Nat := (phase.delay.map Delay.inSeconds).getD 0

def waited (phases : List Phase) (i : Nat) : Nat :=
  (((phases.take i).drop (anchor phases i)).map wait).sum

/-- The start of the phase at a place; there is none past the range of instants. -/
def startAt? (phases : List Phase) (now : Instant) (i : Nat) : Option Instant :=
  (base phases now i).after? (waited phases i)

variable {phases rest : List Phase} {phase : Phase} {now : Instant} {inherited : Option Instant}
  {i k : Nat}

/-- Phases after the first one are counted among themselves where one of them has a start. -/
theorem anchor_cons_of_isSome (phase : Phase)
    (own : (ownStart? rest (anchor rest i)).isSome = true) :
    anchor (phase :: rest) (i + 1) = anchor rest i + 1 := by
  refine Nat.findGreatest_eq_iff.mpr ⟨Nat.succ_le_succ (Nat.findGreatest_le i), fun _ => own, ?_⟩
  intro k after le
  obtain _ | k := k
  · contradiction
  · exact Nat.findGreatest_is_greatest (Nat.lt_of_succ_lt_succ after) (Nat.le_of_succ_le_succ le)

/-- A start at a place, or before it, is found. -/
theorem anchor_isSome (le : k ≤ i) (own : (ownStart? phases k).isSome = true) :
    (ownStart? phases (anchor phases i)).isSome = true ∧ k ≤ anchor phases i :=
  ⟨Nat.findGreatest_spec (P := fun k => (ownStart? phases k).isSome = true) le own,
    Nat.le_findGreatest le own⟩

theorem ownStart?_eq_none (none : ownStart? phases (anchor phases i) = none) :
    ∀ k ≤ i, ownStart? phases k = Option.none := by
  intro k le
  by_contra own
  have found := (anchor_isSome le (Option.isSome_iff_ne_none.mpr own)).1
  rw [none] at found
  contradiction

/-- Where no phase has a start, all are counted from the first one. -/
theorem anchor_eq_zero (none : ∀ k, 0 < k → k ≤ i → ownStart? phases k = none) :
    anchor phases i = 0 := by
  refine Nat.findGreatest_eq_zero_iff.mpr ?_
  intro k positive le own
  rw [none k positive le] at own
  contradiction

/-- The start of the phase at a place, where the first one falls back to a start it inherits. -/
def countedFrom? (inherited : Option Instant) (phases : List Phase) (i : Nat) : Option Instant :=
  (ownStart? phases (anchor phases i) <|> inherited).bind (·.after? (waited phases i))

theorem countedFrom?_now (phases : List Phase) (now : Instant) (i : Nat) :
    countedFrom? (some now) phases i = startAt? phases now i := by
  simp only [countedFrom?, startAt?, base]
  cases ownStart? phases (anchor phases i) with
  | none => rfl
  | some start => rfl

theorem followedAt?_eq (phase : Phase) (start : Instant) :
    followedAt? phase start = start.after? (wait phase) := by
  cases delay : phase.delay with
  | none => simp [followedAt?, wait, delay, Instant.after?]
  | some d => simp [followedAt?, wait, delay]

theorem countedFrom?_zero :
    countedFrom? inherited (phase :: rest) 0 = (phase.start <|> inherited) := by
  have none (t : Instant) : t.after? (waited (phase :: rest) 0) = some t := by
    rw [waited, List.take_zero]
    rfl
  simp only [countedFrom?, none]
  exact Option.bind_fun_some _

theorem waited_of_anchor_zero (first : anchor (phase :: rest) (i + 1) = 0)
    (first' : anchor rest i = 0) :
    waited (phase :: rest) (i + 1) = wait phase + waited rest i := by
  simp only [waited, first, first', List.take_succ_cons, List.drop_zero, List.map_cons,
    List.sum_cons]

/-- Later phases are counted from the phases before them or from what the first one leaves. -/
theorem countedFrom?_succ :
    countedFrom? inherited (phase :: rest) (i + 1) =
      countedFrom? ((phase.start <|> inherited).bind (followedAt? phase)) rest i := by
  cases own : ownStart? rest (anchor rest i) with
  | some start =>
    have found := anchor_cons_of_isSome phase (Option.isSome_of_eq_some own)
    have next : ownStart? (phase :: rest) (anchor rest i + 1) = some start := own
    have same : waited (phase :: rest) (i + 1) = waited rest i := by
      simp only [waited, found, List.take_succ_cons, List.drop_succ_cons]
    simp only [countedFrom?, found, next, own, same]
    rfl
  | none =>
    have unscheduled := ownStart?_eq_none own
    have first' : anchor rest i = 0 := anchor_eq_zero fun k _ => unscheduled k
    have first : anchor (phase :: rest) (i + 1) = 0 := by
      apply anchor_eq_zero
      intro k positive le
      obtain _ | k := k
      · contradiction
      · exact unscheduled k (Nat.le_of_succ_le_succ le)
    have sum := waited_of_anchor_zero first first'
    have begins : ownStart? (phase :: rest) 0 = phase.start := rfl
    simp only [countedFrom?, first, begins, own, sum]
    cases phase.start <|> inherited with
    | none => rfl
    | some start =>
      rw [Option.bind_some, Instant.after?_add, ← followedAt?_eq]
      rfl

theorem startsFrom_eq_mapM (inherited : Option Instant) (phases : List Phase) :
    startsFrom inherited phases =
      (List.range phases.length).mapM (countedFrom? inherited phases) := by
  induction phases generalizing inherited with
  | nil => rfl
  | cons phase rest ih =>
    rw [List.length_cons, List.range_succ_eq_map, List.mapM_cons, List.mapM_map, countedFrom?_zero]
    have later : countedFrom? inherited (phase :: rest) ∘ Nat.succ =
        countedFrom? ((phase.start <|> inherited).bind (followedAt? phase)) rest :=
      funext fun i => countedFrom?_succ
    rw [later, ← ih, startsFrom]
    cases phase.start <|> inherited with
    | none => rfl
    | some start => rfl

theorem effectiveStarts_eq_mapM (phases : List Phase) (now : Instant) :
    effectiveStarts phases now = (List.range phases.length).mapM (startAt? phases now) := by
  rw [effectiveStarts, startsFrom_eq_mapM, funext (countedFrom?_now phases now)]

theorem startAt?_eq_none_iff :
    startAt? phases now i = none ↔
      Instant.greatestSecond < (base phases now i).second + waited phases i :=
  Instant.after?_eq_none_iff

section Rows
variable {α β : Type} {f : α → Option β} {as : List α} {bs : List β}

theorem mapM_eq_some_iff : as.mapM f = some bs ↔ as.map f = bs.map some := by
  induction as generalizing bs with
  | nil => cases bs <;> simp
  | cons a rest ih =>
    simp only [List.mapM_cons, Option.bind_eq_bind, Option.bind_eq_some_iff, Option.pure_def,
      Option.some.injEq, List.map_cons]
    constructor
    · rintro ⟨b, one, others, more, rfl⟩
      rw [one, ih.mp more, List.map_cons]
    · intro same
      obtain _ | ⟨b, others⟩ := bs
      · contradiction
      · obtain ⟨one, more⟩ := List.cons.inj same
        exact ⟨b, one, others, ih.mpr more, rfl⟩

theorem mapM_eq_none_iff : as.mapM f = none ↔ ∃ a ∈ as, f a = none := by
  induction as with
  | nil => simp
  | cons a rest ih =>
    simp only [List.mapM_cons, List.mem_cons, exists_eq_or_imp, ← ih]
    cases f a with
    | none => simp
    | some b => cases rest.mapM f <;> simp

end Rows

theorem effectiveStarts_eq_some_iff {starts : List Instant} :
    effectiveStarts phases now = some starts ↔
      (List.range phases.length).map (startAt? phases now) = starts.map some := by
  rw [effectiveStarts_eq_mapM, mapM_eq_some_iff]

theorem effectiveStarts_eq_none_iff :
    effectiveStarts phases now = none ↔ ∃ i < phases.length,
      Instant.greatestSecond < (base phases now i).second + waited phases i := by
  simp only [effectiveStarts_eq_mapM, mapM_eq_none_iff, List.mem_range, startAt?_eq_none_iff]

/-- Starts that are told at the same place are those of the place. -/
theorem getElem?_eq_of_startAt?_eq {others : List Phase} {later : Instant}
    {starts starts' : List Instant} (told : effectiveStarts phases now = some starts)
    (told' : effectiveStarts others later = some starts') (length : others.length = phases.length)
    (same : startAt? others later i = startAt? phases now i) : starts'[i]? = starts[i]? := by
  apply (Option.map_inj_right fun _ _ => Option.some.inj).mp
  rw [← List.getElem?_map, ← List.getElem?_map, ← effectiveStarts_eq_some_iff.mp told,
    ← effectiveStarts_eq_some_iff.mp told', length, List.getElem?_map, List.getElem?_map]
  by_cases inside : i < phases.length
  · rw [List.getElem?_range inside, Option.map_some, Option.map_some, same]
  · rw [List.getElem?_eq_none (by simpa using inside)]
    rfl

theorem inRange_of_effectiveStarts {starts : List Instant}
    (told : effectiveStarts phases now = some starts) :
    ∀ i < phases.length,
      (base phases now i).second + waited phases i ≤ Instant.greatestSecond := by
  intro i inside
  by_contra past
  have none := effectiveStarts_eq_none_iff.mpr ⟨i, inside, Int.not_le.mp past⟩
  rw [told] at none
  contradiction

theorem startTimes_eq_error_iff :
    startTimes phases now = .error (.validation .startOutOfRange) ↔
      effectiveStarts phases now = none := by
  cases told : effectiveStarts phases now with
  | none => simp [startTimes, told]
  | some starts =>
    cases phases with
    | nil => simp [startTimes, told]
    | cons first rest =>
      obtain ⟨_, _, _, ends⟩ := startTimes_of_effectiveStarts told
      simp [ends]

/-- The first phase may be asked for without a start. -/
theorem startTimes_eq_ok {starts : List Instant} (told : effectiveStarts phases now = some starts) :
    startTimes phases now = .ok ((List.range phases.length).map fun i =>
      if i = 0 then ownStart? phases 0 else startAt? phases now i) := by
  cases phases with
  | nil => rfl
  | cons first rest =>
    obtain ⟨later, rfl, _, ends⟩ := startTimes_of_effectiveStarts told
    have column := effectiveStarts_eq_some_iff.mp told
    rw [List.length_cons, List.range_succ_eq_map, List.map_cons, List.map_map, List.map_cons]
      at column
    rw [ends, List.length_cons, List.range_succ_eq_map, List.map_cons, List.map_map,
      ← (List.cons.inj column).2]
    rfl

/-- From the first start of a phase's own on, the time of asking does not matter. -/
theorem startAt?_of_own (later : Instant) (own : (ownStart? phases k).isSome = true) (le : k ≤ i) :
    startAt? phases later i = startAt? phases now i := by
  obtain ⟨start, found⟩ := Option.isSome_iff_exists.mp (anchor_isSome le own).1
  simp only [startAt?, base, found, Option.getD_some]

section Delaying
variable {delay : Option Delay}

def delaying (phases : List Phase) (k : Nat) (delay : Option Delay) : List Phase :=
  phases.modify k fun phase => { phase with delay := delay }

theorem ownStart?_delaying (phases : List Phase) (k : Nat) (delay : Option Delay) :
    ownStart? (delaying phases k delay) = ownStart? phases := by
  funext i
  simp only [ownStart?, delaying, List.getElem?_modify]
  cases phases[i]? with
  | none => rfl
  | some phase =>
    by_cases here : k = i
    · simp [here]
    · simp [here]

theorem waited_delaying (apart : i ≤ k ∨ k < anchor phases i) :
    waited (delaying phases k delay) i = waited phases i := by
  have same : anchor (delaying phases k delay) i = anchor phases i := by
    simp only [anchor, ownStart?_delaying]
  have between : ((delaying phases k delay).take i).drop (anchor phases i) =
      (phases.take i).drop (anchor phases i) := by
    apply List.ext_getElem?
    intro j
    by_cases inside : anchor phases i + j < i
    · have other : k ≠ anchor phases i + j := by omega
      simp [delaying, inside, other]
    · rw [List.getElem?_drop, List.getElem?_drop, List.getElem?_take_eq_none (by omega),
        List.getElem?_take_eq_none (by omega)]
  simp only [waited, same, between]

/-- A delay is waited for by later phases only, up to the next one with a start of its own. -/
theorem startAt?_delaying (now : Instant)
    (apart : i ≤ k ∨ ∃ j, k < j ∧ j ≤ i ∧ (ownStart? phases j).isSome = true) :
    startAt? (delaying phases k delay) now i = startAt? phases now i := by
  have begins : base (delaying phases k delay) now i = base phases now i := by
    simp only [base, anchor, ownStart?_delaying]
  have spared : i ≤ k ∨ k < anchor phases i := by
    rcases apart with early | ⟨j, after, le, own⟩
    · exact .inl early
    · exact .inr (Nat.lt_of_lt_of_le after (anchor_isSome le own).2)
  rw [startAt?, startAt?, begins, waited_delaying spared]

end Delaying

/-- The greatest number of seconds whose milliseconds are a signed number of 64 bits. -/
def greatestDuration : Nat := (UInt64.size / 2 - 1) / 1000

theorem inSeconds_le (delay : Delay) : delay.inSeconds ≤ greatestDuration := by
  have small : delay.amount.toNat < 2 ^ 32 := delay.amount.toNat_lt
  have longest : delay.unit.inMinutes ≤ 1440 := by
    cases delay.unit <;> decide
  have product : delay.amount.toNat * delay.unit.inMinutes ≤ 2 ^ 32 * 1440 :=
    Nat.mul_le_mul (Nat.le_of_lt small) longest
  simp only [Delay.inSeconds, Delay.inMinutes, greatestDuration, UInt64.size]
  omega

/-- Every phase starts where its anchor and the delays from there on put it, if all of them start in
range. The start of a phase at or after one with a start of its own is the same at any time of
asking, a delay counts up to the next such phase, and no delay is too long for a duration. -/
theorem starts_counted_from_anchors (phases : List Phase) (now : Instant) :
    (∀ starts, effectiveStarts phases now = some starts ↔
      (List.range phases.length).map (startAt? phases now) = starts.map some) ∧
    (startTimes phases now = .error (.validation .startOutOfRange) ↔
      ∃ i < phases.length, Instant.greatestSecond < (base phases now i).second + waited phases i) ∧
    (∀ times, startTimes phases now = .ok times ↔
      (∀ i < phases.length,
        (base phases now i).second + waited phases i ≤ Instant.greatestSecond) ∧
      times = (List.range phases.length).map fun i =>
        if i = 0 then ownStart? phases 0 else startAt? phases now i) ∧
    (∀ starts, effectiveStarts phases now = some starts →
      (∀ later others, effectiveStarts phases later = some others →
        ∀ k i, (ownStart? phases k).isSome = true → k ≤ i → others[i]? = starts[i]?) ∧
      ∀ k delay others, effectiveStarts (delaying phases k delay) now = some others →
        ∀ i, (i ≤ k ∨ ∃ j, k < j ∧ j ≤ i ∧ (ownStart? phases j).isSome = true) →
          others[i]? = starts[i]?) ∧
    ∀ delay : Delay, delay.inSeconds ≤ greatestDuration := by
  refine ⟨fun starts => effectiveStarts_eq_some_iff, ?_, ?_, ?_, inSeconds_le⟩
  · rw [startTimes_eq_error_iff, effectiveStarts_eq_none_iff]
  · intro times
    constructor
    · intro given
      cases told : effectiveStarts phases now with
      | none =>
        rw [startTimes_eq_error_iff.mpr told] at given
        contradiction
      | some starts =>
        rw [startTimes_eq_ok told, Except.ok.injEq] at given
        exact ⟨inRange_of_effectiveStarts told, given.symm⟩
    · rintro ⟨inRange, rfl⟩
      cases told : effectiveStarts phases now with
      | none =>
        obtain ⟨i, inside, past⟩ := effectiveStarts_eq_none_iff.mp told
        exact absurd (inRange i inside) (by omega)
      | some starts => exact startTimes_eq_ok told
  · intro starts told
    constructor
    · intro later others told' k i own le
      exact getElem?_eq_of_startAt?_eq told told' rfl (startAt?_of_own later own le)
    · intro k delay others told' i apart
      have length : (delaying phases k delay).length = phases.length := List.length_modify ..
      exact getElem?_eq_of_startAt?_eq told told' length (startAt?_delaying now apart)

def leap : Instant := ⟨59, nanosPerSecond, by decide⟩

def hourAfterLeap : Instant := ⟨3659, 0, by decide⟩

/-- The second phase starts in a leap second, and the last two an hour after it. -/
def leaping : List Phase :=
  [(Phase.ofSize 10).withDelay (.hours 2), ((Phase.ofSize 20).startingAt leap).withDelay (.hours 1),
    .ofSize 30, {}]

theorem starts_counted_from_anchors_leaping :
    startTimes leaping .epoch = .ok [none, some leap, some hourAfterLeap, some hourAfterLeap] ∧
    (∃ others, effectiveStarts leaping hourAfterLeap = some others ∧
      others[3]? = some hourAfterLeap) ∧
    ∃ others, effectiveStarts (delaying leaping 0 none) .epoch = some others ∧
      others[3]? = some hourAfterLeap := by
  obtain ⟨starts, _, times, still, _⟩ := starts_counted_from_anchors leaping .epoch
  have told := (starts [.epoch, leap, hourAfterLeap, hourAfterLeap]).mpr (by decide)
  obtain ⟨clock, delays⟩ := still _ told
  refine ⟨(times _).mpr ⟨by decide, by decide⟩, ⟨_, rfl, ?_⟩, ⟨_, rfl, ?_⟩⟩
  · exact clock hourAfterLeap _ rfl 1 3 rfl (by decide)
  · exact delays 0 none _ rfl 3 (.inr ⟨1, by decide, by decide, rfl⟩)

end FleetRollout.Rollout
