import FleetRollout.Proofs.Rollout.Starts
import Mathlib.Algebra.GroupWithZero.Nat

/-! What valid phases promise: their starts can be told, something is left for the last phase, and
there are devices to reach. The check is stated in exact numbers. -/
namespace FleetRollout.Rollout
variable {phases : List Phase} {devices : UInt64} {now : Instant}

/-- The percentages of all phases but the last one; a missing one counts as none of the devices. -/
def leadingPercents (phases : List Phase) : List Nat :=
  phases.dropLast.map fun phase => (phase.batchSize.getD 0).toNat

/-- What is left for the last phase where sums start again from zero. -/
def remainderPercent (phases : List Phase) : UInt32 :=
  .ofNat (100 - (leadingPercents phases).sum % UInt32.size)

/-- A phase that states no percentage adds nothing. -/
theorem sum_leadingSizes (phases : List Phase) :
    ((leadingSizes phases).map UInt32.toNat).sum = (leadingPercents phases).sum := by
  unfold leadingSizes leadingPercents
  induction phases.dropLast with
  | nil => rfl
  | cons phase rest ih =>
    cases size : phase.batchSize with
    | none => simpa [size] using ih
    | some percent => simp [size, ih]

/-- No part of a sum overflows unless the whole of it does. -/
theorem foldlM_add? (overflow : Overflow) (sum : UInt32) (sizes : List UInt32) :
    sizes.foldlM overflow.add? sum =
      if overflow = .stops ∧ UInt32.size ≤ sum.toNat + (sizes.map UInt32.toNat).sum then none
      else some (sum + .ofNat (sizes.map UInt32.toNat).sum) := by
  induction sizes generalizing sum with
  | nil =>
    have small := sum.toNat_lt_size
    rw [if_neg (by simp; omega)]
    simp
  | cons size rest ih =>
    have exact : sum + .ofNat (size.toNat + (rest.map UInt32.toNat).sum) =
        sum + size + .ofNat (rest.map UInt32.toNat).sum := by
      rw [UInt32.ofNat_add, UInt32.ofNat_toNat, UInt32.add_assoc]
    rw [List.foldlM_cons, List.map_cons, List.sum_cons, exact, ← Nat.add_assoc]
    cases overflow with
    | wraps =>
      have added : Overflow.wraps.add? sum size = some (sum + size) := rfl
      rw [added, Option.bind_eq_bind, Option.bind_some, ih]
      simp
    | stops =>
      by_cases fits : sum.toNat + size.toNat < UInt32.size
      · have added : Overflow.stops.add? sum size = some (sum + size) := if_pos fits
        have unwrapped : (sum + size).toNat = sum.toNat + size.toNat :=
          (UInt32.toNat_add sum size).trans (Nat.mod_eq_of_lt fits)
        rw [added, Option.bind_eq_bind, Option.bind_some, ih, unwrapped]
      · have stopped : Overflow.stops.add? sum size = none := if_neg fits
        rw [stopped, if_pos ⟨rfl, by omega⟩]
        rfl

theorem claimedPercent?_eq (overflow : Overflow) (phases : List Phase) :
    claimedPercent? overflow phases =
      if overflow = .stops ∧ UInt32.size ≤ (leadingPercents phases).sum then none
      else some (.ofNat (leadingPercents phases).sum) := by
  rw [claimedPercent?, foldlM_add?, sum_leadingSizes, UInt32.toNat_zero, Nat.zero_add,
    UInt32.zero_add]

theorem remainderPercent_toNat (phases : List Phase) :
    (remainderPercent phases).toNat = 100 - (leadingPercents phases).sum % UInt32.size := by
  rw [remainderPercent, UInt32.toNat_ofNat_of_lt']
  exact Nat.lt_of_le_of_lt (Nat.sub_le _ _) (by decide)

/-- What is left is the same in each build, unless the program stops. -/
theorem remainderPercent?_eq (overflow : Overflow) (phases : List Phase) :
    remainderPercent? overflow phases =
      if overflow = .stops ∧ UInt32.size ≤ (leadingPercents phases).sum then none
      else some (remainderPercent phases) := by
  obtain _ | ⟨phase, rest⟩ := phases
  · rw [if_neg (by simp [leadingPercents])]
    rfl
  have left (claimed : UInt32) : (if 100 ≤ claimed then 0 else 100 - claimed).toNat =
      100 - claimed.toNat := by
    split
    · rename_i all
      have all : 100 ≤ claimed.toNat := all
      simp [Nat.sub_eq_zero_of_le all]
    · rename_i some
      have some : claimed ≤ 100 := UInt32.le_of_lt (UInt32.not_le.mp some)
      rw [UInt32.toNat_sub_of_le _ _ some]
      rfl
  rw [remainderPercent?, if_neg (by simp), claimedPercent?_eq]
  split
  · rfl
  · refine congrArg some (UInt32.toNat_inj.mp ?_)
    rw [left, remainderPercent_toNat, UInt32.toNat_ofNat']

theorem isValid_cons {phase : Phase} {rest : List Phase} :
    isValid (phase :: rest) devices now = true ↔
      ∃ starts, effectiveStarts (phase :: rest) now = some starts ∧ increasing starts = true ∧
        remainderPercent (phase :: rest) ≠ 0 ∧
        reachesDevices devices (remainderPercent (phase :: rest)) (phase :: rest) = true := by
  have remainder := remainderPercent?_eq .wraps (phase :: rest)
  rw [if_neg (by simp)] at remainder
  unfold isValid isValid?
  rw [remainder]
  cases effectiveStarts (phase :: rest) now with
  | none => simp
  | some starts => cases increases : increasing starts <;> simp [increases]

theorem startTimes_of_isValid (valid : isValid phases devices now = true) :
    ∃ starts, startTimes phases now = .ok starts := by
  cases phases with
  | nil => exact ⟨[], rfl⟩
  | cons first rest =>
    obtain ⟨_, effective, _⟩ := isValid_cons.mp valid
    obtain ⟨_, _, _, told⟩ := startTimes_of_effectiveStarts effective
    exact ⟨_, told⟩

/-- Something is left for the last phase exactly if the others claim less than all, unless their
sum is too large for 32 bits. -/
theorem remainderPercent_ne_zero (fits : (leadingPercents phases).sum < UInt32.size) :
    remainderPercent phases ≠ 0 ↔ (leadingPercents phases).sum < 100 := by
  have exact := remainderPercent_toNat phases
  rw [Nat.mod_eq_of_lt fits] at exact
  rw [ne_eq, ← UInt32.toNat_inj, exact, UInt32.toNat_zero]
  omega

theorem reachesDevice_iff {percent : UInt32} :
    reachesDevice devices percent = true ↔ 100 ≤ devices.toNat * percent.toNat := by
  have large : 100 ≤ greatestCount := by decide
  unfold reachesDevice
  rw [decide_eq_true_eq, Nat.le_div_iff_mul_le (by decide)]
  omega

theorem reachesDevices_iff {remainder : UInt32} (nonempty : phases ≠ []) :
    reachesDevices devices remainder phases = true ↔
      (∀ percent ∈ leadingPercents phases, 100 ≤ devices.toNat * percent) ∧
        100 ≤ devices.toNat * remainder.toNat := by
  unfold leadingPercents
  induction phases with
  | nil => contradiction
  | cons phase rest ih =>
    cases rest with
    | nil => simp [reachesDevices, reachesDevice_iff]
    | cons next rest =>
      simp only [reachesDevices, Bool.and_eq_true, reachesDevice_iff, ih (List.cons_ne_nil _ _),
        List.dropLast_cons_cons, List.map_cons, List.forall_mem_cons, and_assoc]

/-- The check in a row: the starts are in order, and each phase reaches a device, the last one by
what is left. -/
theorem isValid_iff_ordered (nonempty : phases ≠ []) :
    isValid phases devices now = true ↔
      (∃ starts, effectiveStarts phases now = some starts ∧ starts.Pairwise (· < ·)) ∧
        (∀ percent ∈ leadingPercents phases, 100 ≤ devices.toNat * percent) ∧
        100 ≤ devices.toNat * (remainderPercent phases).toNat := by
  obtain _ | ⟨phase, rest⟩ := phases
  · contradiction
  rw [isValid_cons]
  constructor
  · rintro ⟨starts, told, increases, _, reaches⟩
    exact ⟨⟨starts, told, increasing_iff_pairwise.mp increases⟩,
      (reachesDevices_iff nonempty).mp reaches⟩
  · rintro ⟨⟨starts, told, ordered⟩, reached⟩
    refine ⟨starts, told, increasing_iff_pairwise.mpr ordered, ?_,
      (reachesDevices_iff nonempty).mpr reached⟩
    intro none
    have last := reached.2
    rw [none, UInt32.toNat_zero, Nat.mul_zero] at last
    contradiction

theorem pos_of_isValid (nonempty : phases ≠ []) (valid : isValid phases devices now = true) :
    0 < devices := by
  cases phases with
  | nil => contradiction
  | cons phase rest =>
    obtain ⟨_, _, _, _, reaches⟩ := isValid_cons.mp valid
    obtain ⟨_, last⟩ := (reachesDevices_iff nonempty).mp reaches
    refine UInt64.pos_iff_ne_zero.mpr fun none => ?_
    rw [none, UInt64.toNat_zero, Nat.zero_mul] at last
    contradiction

theorem increasing_unscheduled_iff {starts : List Instant}
    (told : effectiveStarts (phases.map Phase.unscheduled) now = some starts) :
    increasing starts = true ↔ ∀ phase ∈ phases.dropLast, Delays phase := by
  have unscheduled : ∀ phase ∈ phases.map Phase.unscheduled, phase.start = none :=
    List.forall_mem_map.mpr fun _ _ => rfl
  rw [increasing_startsFrom_iff unscheduled told, ← List.map_dropLast, List.forall_mem_map]
  rfl

theorem remainderPercent_unscheduled (phases : List Phase) :
    remainderPercent (phases.map Phase.unscheduled) = remainderPercent phases := by
  have claimed : leadingPercents (phases.map Phase.unscheduled) = leadingPercents phases := by
    rw [leadingPercents, ← List.map_dropLast, List.map_map]
    rfl
  rw [remainderPercent, remainderPercent, claimed]

theorem reachesDevices_unscheduled (remainder : UInt32) (phases : List Phase) :
    reachesDevices devices remainder (phases.map Phase.unscheduled) =
      reachesDevices devices remainder phases := by
  induction phases with
  | nil => rfl
  | cons phase rest ih =>
    cases rest with
    | nil => rfl
    | cons next rest => exact congrArg (reachesDevice devices (phase.batchSize.getD 0) && ·) ih

/-- Valid phases stay valid without their starts exactly if their delays alone keep them apart, as
far as the starts that follow are in range. -/
theorem isValid_unscheduled_iff {scheduled : Instant}
    (valid : isValid phases devices scheduled = true)
    (inRange : (effectiveStarts (phases.map Phase.unscheduled) now).isSome = true) :
    isValid (phases.map Phase.unscheduled) devices now = true ↔
      ∀ phase ∈ phases.dropLast, Delays phase := by
  obtain ⟨starts, told⟩ := Option.isSome_iff_exists.mp inRange
  rw [← increasing_unscheduled_iff told]
  obtain _ | ⟨phase, rest⟩ := phases
  · obtain rfl := Option.some.inj told
    simp [isValid, isValid?, increasing]
  · obtain ⟨_, _, _, left, reaches⟩ := isValid_cons.mp valid
    rw [← remainderPercent_unscheduled] at left reaches
    rw [← reachesDevices_unscheduled] at reaches
    rw [List.map_cons] at told left reaches ⊢
    rw [isValid_cons, told]
    simp [left, reaches]

end FleetRollout.Rollout
