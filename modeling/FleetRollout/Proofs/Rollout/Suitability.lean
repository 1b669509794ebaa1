import FleetRollout.Proofs.Rollout.Validity
import Mathlib.Tactic.ByContra

/-! Which phases suit a number of devices, in numbers without bounds. What the last phase says of its
size and of a delay does not matter, and more devices do no harm. -/
namespace FleetRollout.Rollout

/-- The phases start one after the other, leave something for the last of them, and each of them
reaches a whole device. -/
structure Suits (phases : List Phase) (devices : Nat) (now : Instant) : Prop where
  ordered : ∃ starts, effectiveStarts phases now = some starts ∧ starts.Pairwise (· < ·)
  under : (leadingPercents phases).sum < 100
  reached : ∀ percent ∈ leadingPercents phases, 100 ≤ devices * percent
  remainder : 100 ≤ devices * (100 - (leadingPercents phases).sum)

variable {phases : List Phase} {devices more : UInt64} {now : Instant}

theorem isValid_iff_suits (nonempty : phases ≠ [])
    (fits : (leadingPercents phases).sum < UInt32.size) :
    isValid phases devices now = true ↔ Suits phases devices.toNat now := by
  have left := remainderPercent_toNat phases
  rw [Nat.mod_eq_of_lt fits] at left
  rw [isValid_iff_ordered nonempty, left]
  constructor
  · rintro ⟨ordered, leading, last⟩
    refine ⟨ordered, ?_, leading, last⟩
    by_contra all
    rw [Nat.sub_eq_zero_of_le (Nat.not_lt.mp all), Nat.mul_zero] at last
    contradiction
  · intro suits
    exact ⟨suits.ordered, suits.reached, suits.remainder⟩

section Last
variable {leading : List Phase} {last other : Phase}

theorem startsFrom_concat {inherited : Option Instant} (same : other.start = last.start) :
    startsFrom inherited (leading ++ [other]) = startsFrom inherited (leading ++ [last]) := by
  induction leading generalizing inherited with
  | nil => simp only [List.nil_append, startsFrom, same]
  | cons phase rest ih => simp only [List.cons_append, startsFrom, ih]

theorem remainderPercent_concat (leading : List Phase) (last other : Phase) :
    remainderPercent (leading ++ [other]) = remainderPercent (leading ++ [last]) := by
  simp only [remainderPercent, leadingPercents, List.dropLast_concat]

theorem reachesDevices_concat (remainder : UInt32) (leading : List Phase) (last other : Phase) :
    reachesDevices devices remainder (leading ++ [other]) =
      reachesDevices devices remainder (leading ++ [last]) := by
  induction leading with
  | nil => rfl
  | cons phase rest ih =>
    cases rest with
    | nil => rfl
    | cons next rest =>
      exact congrArg (reachesDevice devices (phase.batchSize.getD 0) && ·) ih

/-- Of the last phase only the start counts. -/
theorem isValid_concat (same : other.start = last.start) :
    isValid (leading ++ [other]) devices now = isValid (leading ++ [last]) devices now := by
  have some (last : Phase) : (leading ++ [last]).isEmpty = false := by simp
  simp only [isValid, isValid?, some, effectiveStarts, startsFrom_concat same,
    remainderPercent?_eq, leadingPercents, List.dropLast_concat,
    remainderPercent_concat leading last other, reachesDevices_concat _ leading last other]

end Last

/-- More devices than phases suit are suited as well. -/
theorem isValid_of_le (le : devices ≤ more) (valid : isValid phases devices now = true) :
    isValid phases more now = true := by
  obtain _ | ⟨phase, rest⟩ := phases
  · rfl
  have nonempty : phase :: rest ≠ [] := List.cons_ne_nil _ _
  have exact : devices.toNat ≤ more.toNat := le
  have reach {percent : Nat} (reached : 100 ≤ devices.toNat * percent) :
      100 ≤ more.toNat * percent := Nat.le_trans reached (Nat.mul_le_mul_right percent exact)
  obtain ⟨starts, told, increases, some, reaches⟩ := isValid_cons.mp valid
  obtain ⟨leading, last⟩ := (reachesDevices_iff nonempty).mp reaches
  exact isValid_cons.mpr ⟨starts, told, increases, some,
    (reachesDevices_iff nonempty).mpr ⟨fun percent found => reach (leading percent found), reach last⟩⟩

/-- Unless the percentages of the leading phases are too many to sum up in 32 bits, the check says
exactly whether phases suit a number of devices. -/
theorem isValid_exactly (phases : List Phase) (devices : UInt64) (now : Instant) :
    ((leadingPercents phases).sum < UInt32.size →
      (isValid phases devices now = true ↔ phases = [] ∨ Suits phases devices.toNat now)) ∧
    (∀ leading last size delay, phases = leading ++ [last] →
      isValid (leading ++ [{ last with batchSize := size, delay := delay }]) devices now =
        isValid phases devices now) ∧
    ∀ more, devices ≤ more → isValid phases devices now = true →
      isValid phases more now = true := by
  refine ⟨?_, ?_, fun more le => isValid_of_le le⟩
  · intro fits
    by_cases empty : phases = []
    · simp [empty, isValid, isValid?]
    · rw [isValid_iff_suits empty fits, or_iff_right empty]
  · rintro leading last size delay rfl
    exact isValid_concat rfl

/-- A tenth of the devices, after an hour the rest less one percent, and after another the rest. -/
def narrow : List Phase :=
  [(Phase.ofSize 10).withDelay (.hours 1), (Phase.ofSize 80).withDelay (.hours 1), .ofSize 99]

theorem isValid_exactly_narrow :
    isValid narrow 10 .epoch = true ∧ ¬ Suits narrow 9 .epoch ∧
    isValid [narrow[0], narrow[1], {}] 10 .epoch = true ∧
    isValid narrow 18446744073709551615 .epoch = true := by
  obtain ⟨exactly, last, more⟩ := isValid_exactly narrow 10 .epoch
  have ordered : ∃ starts, effectiveStarts narrow .epoch = some starts ∧
      starts.Pairwise (· < ·) := ⟨_, rfl, by decide⟩
  have valid : isValid narrow 10 .epoch = true :=
    (exactly (by decide)).mpr (.inr ⟨ordered, by decide, by decide, by decide⟩)
  refine ⟨valid, ?_, ?_, more _ (by decide) valid⟩
  · intro suits
    exact absurd (suits.reached 10 (by decide)) (by decide)
  · exact (last [narrow[0], narrow[1]] (.ofSize 99) none none rfl).trans valid

end FleetRollout.Rollout
