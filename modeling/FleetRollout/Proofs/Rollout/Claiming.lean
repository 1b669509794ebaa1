import FleetRollout.Proofs.Rollout.Validity
import Mathlib.Tactic.ByContra

/-! Percentages that are summed up in 32 bits. As long as the sum fits, what is left for the last
phase is exact; past that the sum starts again from zero, and phases that claim more than all of the
devices may leave some. -/
namespace FleetRollout.Rollout

/-- The verdict is the same in each build, unless the program stops. It does so where the sum of the
percentages is looked at, which is behind the starts. -/
theorem isValid?_eq (overflow : Overflow) (phases : List Phase) (devices : UInt64) (now : Instant) :
    isValid? overflow phases devices now =
      if overflow = .stops ∧ UInt32.size ≤ (leadingPercents phases).sum ∧
          (∃ starts, effectiveStarts phases now = some starts ∧ starts.Pairwise (· < ·)) then none
      else some (isValid phases devices now) := by
  obtain _ | ⟨phase, rest⟩ := phases
  · rw [if_neg (by simp [leadingPercents])]
    rfl
  unfold isValid isValid?
  cases told : effectiveStarts (phase :: rest) now with
  | none => simp
  | some starts =>
    simp only [List.isEmpty_cons, Bool.false_eq_true, if_false, Option.some.injEq, exists_eq_left',
      ← increasing_iff_pairwise, remainderPercent?_eq]
    cases increasing starts with
    | false => simp
    | true =>
      by_cases stops : overflow = .stops ∧ UInt32.size ≤ (leadingPercents (phase :: rest)).sum
      · simp [stops]
      · simp [stops, bne, BEq.beq]

/-- What a sum leaves that starts again from zero, against what the exact sum leaves. -/
theorem remainder_exact_iff {overflow : Overflow} {claimed : Nat}
    (goes : ¬ (overflow = .stops ∧ UInt32.size ≤ claimed)) :
    100 - claimed % UInt32.size = 100 - claimed ↔
      claimed < UInt32.size ∨ overflow = .wraps ∧ 100 ≤ claimed % UInt32.size := by
  have wide : 100 < UInt32.size := by decide
  have le := Nat.mod_le claimed UInt32.size
  by_cases fits : claimed < UInt32.size
  · simp [Nat.mod_eq_of_lt fits, fits]
  · have wraps : overflow = .wraps := by
      cases overflow with
      | stops => exact absurd ⟨rfl, Nat.not_lt.mp fits⟩ goes
      | wraps => rfl
    simp only [fits, wraps, false_or, true_and]
    omega

section
variable {overflow : Overflow} {phases : List Phase} {devices : UInt64} {now : Instant}

theorem claimedPercent?_cases :
    claimedPercent? overflow phases = some (.ofNat (leadingPercents phases).sum) ∨
      claimedPercent? overflow phases = none ∧ overflow = .stops := by
  rw [claimedPercent?_eq]
  split
  · rename_i stops
    exact .inr ⟨rfl, stops.1⟩
  · exact .inl rfl

theorem claimedPercent?_exact_iff :
    (∃ claimed, claimedPercent? overflow phases = some claimed ∧
        claimed.toNat = (leadingPercents phases).sum) ↔
      (leadingPercents phases).sum < UInt32.size := by
  rw [claimedPercent?_eq]
  split
  · rename_i stops
    simp [Nat.not_lt.mpr stops.2]
  · simp only [Option.some.injEq, exists_eq_left', UInt32.toNat_ofNat']
    exact Nat.mod_eq_iff_lt (by decide)

theorem remainderPercent?_exact_iff :
    (∃ remainder, remainderPercent? overflow phases = some remainder ∧
        remainder.toNat = 100 - (leadingPercents phases).sum) ↔
      (leadingPercents phases).sum < UInt32.size ∨
        overflow = .wraps ∧ 100 ≤ (leadingPercents phases).sum % UInt32.size := by
  rw [remainderPercent?_eq]
  split
  · rename_i stops
    simp [stops.1, Nat.not_lt.mpr stops.2]
  · rename_i goes
    simp only [Option.some.injEq, exists_eq_left', remainderPercent_toNat]
    exact remainder_exact_iff goes

theorem isValid?_eq_none_iff :
    isValid? overflow phases devices now = none ↔
      overflow = .stops ∧ UInt32.size ≤ (leadingPercents phases).sum ∧
        ∃ starts, effectiveStarts phases now = some starts ∧ starts.Pairwise (· < ·) := by
  rw [isValid?_eq]
  split
  · rename_i stops
    simpa using stops
  · rename_i goes
    simpa using goes

/-- What is left after phases that claim everything is nothing, unless their sum overflows. -/
theorem isValid?_iff_of_claimed (all : 100 ≤ (leadingPercents phases).sum) :
    isValid? overflow phases devices now = some true ↔
      overflow = .wraps ∧ UInt32.size ≤ (leadingPercents phases).sum ∧
        (∃ starts, effectiveStarts phases now = some starts ∧ starts.Pairwise (· < ·)) ∧
        (∀ percent ∈ leadingPercents phases, 100 ≤ devices.toNat * percent) ∧
        100 ≤ devices.toNat * (100 - (leadingPercents phases).sum % UInt32.size) := by
  have nonempty : phases ≠ [] := by
    rintro rfl
    contradiction
  rw [isValid?_eq]
  split
  · rename_i stops
    simp [stops.1]
  · rename_i goes
    rw [Option.some.injEq, isValid_iff_ordered nonempty, remainderPercent_toNat]
    constructor
    · rintro ⟨ordered, reached, last⟩
      have overflows : UInt32.size ≤ (leadingPercents phases).sum := by
        by_contra fits
        rw [Nat.mod_eq_of_lt (Nat.not_le.mp fits), Nat.sub_eq_zero_of_le all, Nat.mul_zero] at last
        contradiction
      refine ⟨?_, overflows, ordered, reached, last⟩
      cases overflow with
      | stops => exact absurd ⟨rfl, overflows, ordered⟩ goes
      | wraps => rfl
    · rintro ⟨_, _, valid⟩
      exact valid

end

/-- Percentages are summed up exactly if the sum fits in 32 bits. Where it does not, one build stops
the program, and the other one leaves what a sum that starts again from zero leaves; that is exact
only where it comes to all of the devices in spite of the overflow. A check of phases whose starts
are in order stops in the same cases. Phases that claim all of the devices or more are never valid
unless the sum overflows in the build that goes on, and then exactly if their starts are in order and
the devices are reached with what the overflow leaves. -/
theorem percentages_exact_iff_fit (overflow : Overflow) (phases : List Phase) (devices : UInt64)
    (now : Instant) :
    (claimedPercent? .stops phases = none ↔ UInt32.size ≤ (leadingPercents phases).sum) ∧
    (claimedPercent? overflow phases = some (.ofNat (leadingPercents phases).sum) ∨
      claimedPercent? overflow phases = none ∧ overflow = .stops) ∧
    ((∃ claimed, claimedPercent? overflow phases = some claimed ∧
        claimed.toNat = (leadingPercents phases).sum) ↔
      (leadingPercents phases).sum < UInt32.size) ∧
    ((∃ remainder, remainderPercent? overflow phases = some remainder ∧
        remainder.toNat = 100 - (leadingPercents phases).sum) ↔
      (leadingPercents phases).sum < UInt32.size ∨
        overflow = .wraps ∧ 100 ≤ (leadingPercents phases).sum % UInt32.size) ∧
    (isValid? overflow phases devices now = none ↔
      overflow = .stops ∧ UInt32.size ≤ (leadingPercents phases).sum ∧
        ∃ starts, effectiveStarts phases now = some starts ∧ starts.Pairwise (· < ·)) ∧
    (100 ≤ (leadingPercents phases).sum →
      (isValid? overflow phases devices now = some true ↔
        overflow = .wraps ∧ UInt32.size ≤ (leadingPercents phases).sum ∧
        (∃ starts, effectiveStarts phases now = some starts ∧ starts.Pairwise (· < ·)) ∧
        (∀ percent ∈ leadingPercents phases, 100 ≤ devices.toNat * percent) ∧
        100 ≤ devices.toNat * (100 - (leadingPercents phases).sum % UInt32.size))) := by
  refine ⟨?_, claimedPercent?_cases, claimedPercent?_exact_iff, remainderPercent?_exact_iff,
    isValid?_eq_none_iff, isValid?_iff_of_claimed⟩
  simp [claimedPercent?_eq]

/-- Phases that claim 4294967346 percent of the devices, which is 50 percent in 32 bits. -/
def overclaiming : List Phase :=
  [(Phase.ofSize 4294967295).withDelay (.hours 1), (Phase.ofSize 51).withDelay (.hours 1), {}]

theorem percentages_exact_iff_fit_overclaiming :
    (leadingPercents overclaiming).sum = 4294967346 ∧
      isValid? .stops overclaiming 100 .epoch = none ∧
      isValid? .wraps overclaiming 100 .epoch = some true := by
  have ordered : ∃ starts, effectiveStarts overclaiming .epoch = some starts ∧
      starts.Pairwise (· < ·) := ⟨_, rfl, by decide⟩
  obtain ⟨_, _, _, _, stopping, _⟩ := percentages_exact_iff_fit .stops overclaiming 100 .epoch
  obtain ⟨_, _, _, _, _, claiming⟩ := percentages_exact_iff_fit .wraps overclaiming 100 .epoch
  refine ⟨by decide, stopping.mpr ⟨rfl, by decide, ordered⟩, ?_⟩
  exact (claiming (by decide)).mpr ⟨rfl, by decide, ordered, by decide, by decide⟩

theorem not_percentages_exact :
    ¬ ∃ overflow, ∀ (phases : List Phase) (devices : UInt64) (now : Instant),
      (∃ remainder, remainderPercent? overflow phases = some remainder ∧
        remainder.toNat = 100 - (leadingPercents phases).sum) ∧
      (100 ≤ (leadingPercents phases).sum →
        isValid? overflow phases devices now = some false) := by
  rintro ⟨overflow, exact⟩
  obtain ⟨remainder, left, none⟩ := (exact overclaiming 100 .epoch).1
  cases overflow with
  | stops =>
    have stops : remainderPercent? .stops overclaiming = Option.none := by decide
    rw [stops] at left
    contradiction
  | wraps =>
    have fifty : remainderPercent? .wraps overclaiming = some 50 := by decide
    obtain rfl := Option.some.inj (fifty.symm.trans left)
    contradiction

end FleetRollout.Rollout
