import Mathlib.Algebra.GroupWithZero.Nat

/-! How the devices of a fleet fall to the phases of a rollout: each phase but the last takes the
whole devices of its percentage, and the last one takes the others. -/
namespace FleetRollout.Rollout

/-- The devices of each phase, given the percentages of all phases but the last. -/
def portions (devices : Nat) (percents : List Nat) : List Nat :=
  let leading := percents.map fun percent => devices * percent / 100
  leading ++ [devices - leading.sum]

variable {devices : Nat} {percents : List Nat}

@[simp] theorem length_portions (devices : Nat) (percents : List Nat) :
    (portions devices percents).length = percents.length + 1 := by
  simp [portions]

/-- Rounding down one by one loses no less than rounding down at once. -/
theorem rounded_sum_le (devices : Nat) (percents : List Nat) :
    (percents.map fun percent => devices * percent / 100).sum ≤ devices * percents.sum / 100 := by
  induction percents with
  | nil => simp
  | cons percent rest ih =>
    rw [List.map_cons, List.sum_cons, List.sum_cons, Nat.mul_add]
    omega

theorem rounded_sum_lt (some : 0 < devices) (under : percents.sum < 100) :
    (percents.map fun percent => devices * percent / 100).sum < devices := by
  have rounded := rounded_sum_le devices percents
  have less : devices * percents.sum < devices * 100 := Nat.mul_lt_mul_of_pos_left under some
  omega

theorem sum_portions (some : 0 < devices) (under : percents.sum < 100) :
    (portions devices percents).sum = devices := by
  -- The last portion is what is left only because the others do not take more than there is.
  have less := rounded_sum_lt some under
  rw [portions, List.sum_append, List.sum_singleton]
  omega

example : portions 25 [10, 20] = [2, 5, 18] := by decide

theorem one_le_of_mem_portions (some : 0 < devices) (under : percents.sum < 100)
    (reaches : ∀ percent ∈ percents, 100 ≤ devices * percent) :
    ∀ portion ∈ portions devices percents, 1 ≤ portion := by
  intro portion found
  obtain leading | last := List.mem_append.mp found
  · obtain ⟨percent, member, rfl⟩ := List.mem_map.mp leading
    have reached := reaches percent member
    omega
  · have less := rounded_sum_lt some under
    obtain rfl := List.mem_singleton.mp last
    omega

end FleetRollout.Rollout
