import FleetRollout.Json.Syntax
import FleetRollout.Json.Writer

/-! Quoted strings read back. A control character without an escape of its own comes back as a
UTF-16 unit, any other character as itself. -/
namespace FleetRollout.Json.Syntax

def Item.written (c : Char) : Item :=
  if c.toNat < 0x20 ∧ c ∉ ['\x08', '\x0c', '\n', '\r', '\t'] then .unit c.toNat else .char c

theorem hexQuad?_hexPair {n : Nat} (small : n < 0x100) (rest : List Char) :
    hexQuad? ('0' :: '0' :: (hexPair n ++ rest)) = some (n, rest) := by
  have digit : ∀ d < 16, Text.hexDigit? d.digitChar = some d := by decide
  have zero : Text.hexDigit? '0' = some 0 := by decide
  have high := digit (n / 16) (by omega)
  have low := digit (n % 16) (by omega)
  simp only [hexPair, hexQuad?, List.cons_append, List.nil_append, zero, high, low,
    Option.bind_eq_bind, Option.bind_some, Option.pure_def, Option.some.injEq, Prod.mk.injEq,
    and_true]
  omega

theorem stringItems?_escapedChar (fuel : Nat) (c : Char) (rest : List Char) :
    stringItems? (fuel + 1) (escapedChar c ++ rest) =
      (stringItems? fuel rest).bind fun (items, rest) => some (.written c :: items, rest) := by
  unfold escapedChar
  split
  iterate 7 rfl
  rename_i quote backslash backspace feed line back tab
  split
  · rename_i control
    have unit : Item.written c = .unit c.toNat := by
      refine if_pos ⟨control, ?_⟩
      simp only [List.mem_cons, List.not_mem_nil, or_false, not_or]
      exact ⟨backspace, feed, line, back, tab⟩
    have hex := hexQuad?_hexPair (n := c.toNat) (by omega) rest
    simp only [List.cons_append, List.nil_append]
    rw [unit, stringItems?, hex]
    rfl
  · rename_i plain
    have char : Item.written c = .char c := if_neg fun both => plain both.1
    rw [char, List.singleton_append, stringItems?]
    · rw [if_neg (by grind)]
      rfl
    · exact quote
    · intro _ same
      exact absurd same backslash
    · intro _ _ same
      exact absurd same backslash

/-- The items of a text that is written up to its closing quote. -/
theorem stringItems?_quoted (cs rest : List Char) {fuel : Nat} (enough : cs.length < fuel) :
    stringItems? fuel (cs.flatMap escapedChar ++ '"' :: rest) =
      some (cs.map Item.written, rest) := by
  induction cs generalizing fuel with
  | nil =>
    obtain ⟨fuel, rfl⟩ := Nat.exists_eq_succ_of_ne_zero (by omega : fuel ≠ 0)
    rfl
  | cons c cs ih =>
    obtain ⟨fuel, rfl⟩ := Nat.exists_eq_succ_of_ne_zero (by omega : fuel ≠ 0)
    rw [List.flatMap_cons, List.append_assoc, stringItems?_escapedChar, ih (by simpa using enough)]
    rfl

theorem textOf?_unit {n : Nat} (plain : n < 0xD800) (items : List Item) :
    textOf? (.unit n :: items) = (textOf? items).map (Char.ofNat n :: ·) := by
  have unpaired : ¬ (0xD800 ≤ n ∧ n < 0xE000) := by omega
  have first : ¬ (0xD800 ≤ n ∧ n < 0xDC00) := by omega
  have second : ¬ (0xDC00 ≤ n ∧ n < 0xE000) := by omega
  cases items with
  | nil => simp [textOf?, unpaired]
  | cons item items =>
    cases item with
    | char c => simp [textOf?, unpaired]
    | unit low => simp [textOf?, first, second]

theorem textOf?_written (cs : List Char) : textOf? (cs.map Item.written) = some cs := by
  induction cs with
  | nil => rfl
  | cons c cs ih =>
    rw [List.map_cons, Item.written]
    split
    · rename_i control
      rw [textOf?_unit (by omega), ih, Char.ofNat_toNat]
      rfl
    · rw [textOf?, ih]
      rfl

theorem length_le_flatMap_escapedChar (cs : List Char) :
    cs.length ≤ (cs.flatMap escapedChar).length := by
  induction cs with
  | nil => simp
  | cons c cs ih =>
    have one : 1 ≤ (escapedChar c).length := by
      unfold escapedChar
      split
      all_goals try simp
      split <;> simp
    rw [List.flatMap_cons, List.length_append, List.length_cons]
    omega

/-- A written string reads as itself, after its opening quote. -/
theorem string?_quoted (s : String) (rest : List Char) :
    string? (s.toList.flatMap escapedChar ++ '"' :: rest) = some (some s, rest) := by
  have length := length_le_flatMap_escapedChar s.toList
  have enough : s.toList.length <
      (s.toList.flatMap escapedChar ++ '"' :: rest).length + 1 := by
    rw [List.length_append]
    omega
  rw [string?, stringItems?_quoted _ _ enough, Option.map_some]
  simp [textOf?_written]

end FleetRollout.Json.Syntax
