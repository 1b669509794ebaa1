import FleetRollout.Text.Blank
import FleetRollout.Text.Numeral
import Mathlib.Data.List.Basic

/-! Decimal numerals read back: the digits of a number have its value, with zeros in front of them
or without. -/
namespace FleetRollout.Text

theorem digitsValue_eq (ds : List Char) : digitsValue ds = Nat.ofDigitChars 10 ds 0 :=
  Nat.ofDigitChars_eq_foldl.symm

@[simp] theorem digitsValue_digits (n : Nat) : digitsValue (digits n) = n := by
  rw [digitsValue_eq]
  exact Nat.ofDigitChars_ten_toDigits

@[simp] theorem digitsValue_paddedDigits (width n : Nat) :
    digitsValue (paddedDigits width n) = n := by
  rw [digitsValue_eq, paddedDigits, Nat.ofDigitChars_append, Nat.ofDigitChars_replicate_zero,
    Nat.mul_zero]
  exact Nat.ofDigitChars_ten_toDigits

theorem digits_ne_nil (n : Nat) : digits n ≠ [] := Nat.toDigits_ne_nil

theorem paddedDigits_ne_nil (width n : Nat) : paddedDigits width n ≠ [] := by
  simp [paddedDigits, digits_ne_nil]

theorem isDigit_of_mem_digits {n : Nat} {c : Char} (found : c ∈ digits n) : c.isDigit = true :=
  Nat.isDigit_of_mem_toDigits (by decide) (by decide) found

theorem isDigit_of_mem_paddedDigits {width n : Nat} {c : Char} (found : c ∈ paddedDigits width n) :
    c.isDigit = true := by
  obtain zero | digit := List.mem_append.mp found
  · rw [List.eq_of_mem_replicate zero]
    rfl
  · exact isDigit_of_mem_digits digit

/-- A numeral has a first character, which is a digit. -/
theorem digits_eq_cons (n : Nat) : ∃ c tail, digits n = c :: tail ∧ c.isDigit = true := by
  obtain ⟨c, tail, row⟩ := List.exists_cons_of_ne_nil (digits_ne_nil n)
  exact ⟨c, tail, row, isDigit_of_mem_digits (row ▸ List.mem_cons_self)⟩

theorem paddedDigits_eq_cons (width n : Nat) :
    ∃ c tail, paddedDigits width n = c :: tail ∧ c.isDigit = true := by
  obtain ⟨c, tail, row⟩ := List.exists_cons_of_ne_nil (paddedDigits_ne_nil width n)
  exact ⟨c, tail, row, isDigit_of_mem_paddedDigits (row ▸ List.mem_cons_self)⟩

theorem length_paddedDigits {width n : Nat} (positive : 0 < width) (fits : n < Nat.pow 10 width) :
    (paddedDigits width n).length = width := by
  have short : (digits n).length ≤ width :=
    (Nat.length_toDigits_le_iff (by decide) positive).mpr fits
  rw [paddedDigits, List.length_append, List.length_replicate]
  omega

theorem head?_digits_ne_zero {n : Nat} (positive : 0 < n) : (digits n).head? ≠ some '0' := by
  induction n using Nat.strongRecOn with
  | ind n ih =>
    rw [digits, Nat.toDigits_eq_if (by decide)]
    split
    · rw [List.head?_cons, ne_eq, Option.some.injEq, Nat.digitChar_eq_zero]
      omega
    · have shorter := ih (n / 10) (by omega) (by omega)
      rwa [List.head?_append_of_ne_nil _ Nat.toDigits_ne_nil]

/-- No zero stands before another digit. -/
theorem digits_ne_zero_cons (n : Nat) (d : Char) (ds : List Char) : digits n ≠ '0' :: d :: ds := by
  intro same
  cases Nat.eq_zero_or_pos n with
  | inl zero =>
    subst zero
    exact absurd same (by simp [digits, Nat.toDigits_zero])
  | inr positive =>
    apply head?_digits_ne_zero positive
    rw [same]
    rfl

theorem isBlank_of_isDigit {c : Char} (digit : c.isDigit = true) : isBlank c = false := by
  rw [Char.isDigit_iff_toNat] at digit
  change 48 ≤ c.toNat ∧ c.toNat ≤ 57 at digit
  simp only [isBlank, Bool.or_eq_false_iff, Bool.and_eq_false_iff, decide_eq_false_iff_not,
    beq_eq_false_iff_ne]
  omega

section Runs
variable {p : Char → Bool} {run rest : List Char} (inside : ∀ c ∈ run, p c = true)
  (stops : ∀ c ∈ rest.head?, p c = false)
include inside stops

theorem takeWhile_run : (run ++ rest).takeWhile p = run := by
  have none : rest.takeWhile p = [] := by
    cases rest with
    | nil => rfl
    | cons c _ => simp [stops c rfl]
  rw [List.takeWhile_append_of_pos inside, none, List.append_nil]

theorem dropWhile_run : (run ++ rest).dropWhile p = rest := by
  rw [List.dropWhile_append_of_pos inside]
  cases rest with
  | nil => rfl
  | cons c _ => simp [stops c rfl]

end Runs

end FleetRollout.Text
