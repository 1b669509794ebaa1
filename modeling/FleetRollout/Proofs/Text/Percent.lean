import FleetRollout.Http.Escaping
import FleetRollout.Text.Numeral

/-! Escapes are read back. An escaped byte is decoded to itself, so any choice of bytes that stand for
themselves gives the bytes back, as long as these are ASCII and no percent sign is among them. -/
namespace FleetRollout.Text
variable {cs ds : List Char} {b : UInt8} {bs : List UInt8} {c : Char}

theorem utf8_cons (c : Char) (cs : List Char) :
    utf8 (c :: cs) = String.utf8EncodeChar c ++ utf8 cs := List.flatMap_cons

theorem utf8_inj : utf8 cs = utf8 ds ↔ cs = ds := by
  constructor
  · intro same
    have read := ofUtf8?_utf8 cs
    rw [same, ofUtf8?_utf8] at read
    exact (Option.some.inj read).symm
  · rintro rfl
    rfl

def bytesOfText (s : String) : List UInt8 := utf8 s.toList

theorem bytesOfText_inj {s t : String} : bytesOfText s = bytesOfText t ↔ s = t :=
  utf8_inj.trans String.toList_inj

theorem utf8EncodeChar_of_lt (ascii : c.toNat < 0x80) :
    String.utf8EncodeChar c = [UInt8.ofNat c.toNat] := by
  have small : c.val.toNat ≤ 127 := Nat.le_of_lt_succ ascii
  simp only [String.utf8EncodeChar, if_pos small]
  rfl

/-- All bytes of a character outside ASCII are outside ASCII. -/
theorem le_of_mem_utf8EncodeChar (wide : 0x80 ≤ c.toNat) (found : b ∈ String.utf8EncodeChar c) :
    0x80 ≤ b.toNat := by
  have large : ¬ c.val.toNat ≤ 127 := Nat.not_le.mpr wide
  have above (n : Nat) (high : 0x80 ≤ n) (fits : n < 256) : 0x80 ≤ (UInt8.ofNat n).toNat := by
    rwa [UInt8.toNat_ofNat_of_lt' fits]
  simp only [String.utf8EncodeChar, if_neg large] at found
  -- one case for each length of the encoding
  split at found
  · simp only [List.mem_cons, List.not_mem_nil, or_false] at found
    rcases found with rfl | rfl <;> exact above _ (by omega) (by omega)
  · split at found
    · simp only [List.mem_cons, List.not_mem_nil, or_false] at found
      rcases found with rfl | rfl | rfl <;> exact above _ (by omega) (by omega)
    · simp only [List.mem_cons, List.not_mem_nil, or_false] at found
      rcases found with rfl | rfl | rfl | rfl <;> exact above _ (by omega) (by omega)

/-- The byte of an ASCII character stands for nothing else. -/
theorem mem_utf8_iff (ascii : c.toNat < 0x80) : UInt8.ofNat c.toNat ∈ utf8 cs ↔ c ∈ cs := by
  have value : (UInt8.ofNat c.toNat).toNat = c.toNat :=
    UInt8.toNat_ofNat_of_lt' (Nat.lt_trans ascii (by decide))
  rw [utf8, List.mem_flatMap]
  constructor
  · rintro ⟨d, member, found⟩
    by_cases wide : 0x80 ≤ d.toNat
    · have high := le_of_mem_utf8EncodeChar wide found
      omega
    · have small : d.toNat < 0x80 := Nat.not_le.mp wide
      rw [utf8EncodeChar_of_lt small, List.mem_singleton] at found
      have same : c.toNat = d.toNat := by
        rw [← value, found, UInt8.toNat_ofNat_of_lt' (Nat.lt_trans small (by decide))]
      rwa [Char.toNat_inj.mp same]
  · intro member
    refine ⟨c, member, ?_⟩
    rw [utf8EncodeChar_of_lt ascii]
    exact List.mem_singleton_self _

theorem toNat_ofNat_of_lt {n : Nat} (ascii : n < 0x80) : (Char.ofNat n).toNat = n := by
  have valid : n.isValidChar := .inl (Nat.lt_trans ascii (by decide))
  rw [Char.ofNat, dif_pos valid]
  rfl

theorem utf8_ofNat_toNat (ascii : b.toNat < 0x80) : utf8 [Char.ofNat b.toNat] = [b] := by
  have value := toNat_ofNat_of_lt ascii
  rw [utf8_cons, utf8EncodeChar_of_lt (by rwa [value]), value, UInt8.ofNat_toNat]
  rfl

def hexByte (n : Nat) : UInt8 := .ofNat (upperHexDigit n).toNat

theorem utf8_upperHexDigit {n : Nat} (digit : n < 16) : utf8 [upperHexDigit n] = [hexByte n] := by
  have all : ∀ n : Fin 16, (upperHexDigit n).toNat < 0x80 := by decide
  rw [utf8_cons, utf8EncodeChar_of_lt (all ⟨n, digit⟩)]
  rfl

theorem high_lt (b : UInt8) : b.toNat / 16 < 16 := Nat.div_lt_of_lt_mul b.toNat_lt

theorem low_lt (b : UInt8) : b.toNat % 16 < 16 := Nat.mod_lt _ (by decide)

theorem mem_percentEscape (found : c ∈ percentEscape b) :
    c = '%' ∨ ∃ n : Fin 16, c = upperHexDigit n := by
  simp only [percentEscape, List.mem_cons, List.not_mem_nil, or_false] at found
  rcases found with rfl | rfl | rfl
  · exact .inl rfl
  · exact .inr ⟨⟨_, high_lt b⟩, rfl⟩
  · exact .inr ⟨⟨_, low_lt b⟩, rfl⟩

theorem utf8_percentEscape (b : UInt8) :
    utf8 (percentEscape b) = [0x25, hexByte (b.toNat / 16), hexByte (b.toNat % 16)] := by
  calc utf8 (percentEscape b)
      = utf8 ['%'] ++ (utf8 [upperHexDigit (b.toNat / 16)] ++ utf8 [upperHexDigit (b.toNat % 16)]) := by
        rw [← utf8_append, ← utf8_append]
        rfl
    _ = [0x25, hexByte (b.toNat / 16), hexByte (b.toNat % 16)] := by
        rw [utf8_upperHexDigit (high_lt b), utf8_upperHexDigit (low_lt b)]
        rfl

theorem percentDecode_cons_of_ne (plain : b ≠ 0x25) (rest : List UInt8) :
    percentDecode (b :: rest) = b :: percentDecode rest := by
  rw [percentDecode]
  intro high low others same
  exact absurd same plain

/-- Two hex digits of either case that spell a byte. -/
def SpellsByte (high low : Char) (b : UInt8) : Prop :=
  ∃ h l, hexDigit? high = some h ∧ hexDigit? low = some l ∧ b.toNat = 16 * h + l

theorem hexDigit?_eq_some {d : Nat} (digit : hexDigit? c = some d) : c.toNat < 0x80 ∧ d < 16 := by
  have order (c d : Char) : c ≤ d ↔ c.toNat ≤ d.toNat := Iff.rfl
  simp only [hexDigit?, Char.isDigit_iff_toNat, order, Bool.and_eq_true, decide_eq_true_eq,
    Char.reduceToNat] at digit
  grind

theorem hexValue?_ofNat (ascii : c.toNat < 0x80) :
    hexValue? (.ofNat c.toNat) = (hexDigit? c).map UInt8.ofNat := by
  have all : ∀ n : Fin 128,
      hexValue? (.ofNat n) = (hexDigit? (Char.ofNat n)).map UInt8.ofNat := by decide +kernel
  have value := all ⟨c.toNat, ascii⟩
  rwa [Char.ofNat_toNat] at value

theorem percentDecode_escape {high low : Char} (spells : SpellsByte high low b)
    (rest : List UInt8) :
    percentDecode (utf8 ['%', high, low] ++ rest) = b :: percentDecode rest := by
  obtain ⟨h, l, highs, lows, value⟩ := spells
  obtain ⟨highAscii, highSmall⟩ := hexDigit?_eq_some highs
  obtain ⟨lowAscii, lowSmall⟩ := hexDigit?_eq_some lows
  have row : utf8 ['%', high, low] = [0x25, .ofNat high.toNat, .ofNat low.toNat] := by
    simp only [utf8_cons, utf8EncodeChar_of_lt highAscii, utf8EncodeChar_of_lt lowAscii]
    rfl
  have byte : 16 * UInt8.ofNat h + UInt8.ofNat l = b := by
    apply UInt8.toNat_inj.mp
    simp only [UInt8.toNat_add, UInt8.toNat_mul, UInt8.toNat_ofNat', UInt8.reduceToNat]
    omega
  rw [row]
  simp only [List.cons_append, List.nil_append, percentDecode, hexValue?_ofNat highAscii,
    hexValue?_ofNat lowAscii, highs, lows, Option.map_some, byte]

theorem spellsByte_percentEscape (b : UInt8) :
    SpellsByte (upperHexDigit (b.toNat / 16)) (upperHexDigit (b.toNat % 16)) b := by
  have all : ∀ n : Fin 16, hexDigit? (upperHexDigit n) = some n.val := by decide
  exact ⟨_, _, all ⟨_, high_lt b⟩, all ⟨_, low_lt b⟩, (Nat.div_add_mod b.toNat 16).symm⟩

theorem percentDecode_percentEscape (b : UInt8) (rest : List UInt8) :
    percentDecode (utf8 (percentEscape b) ++ rest) = b :: percentDecode rest :=
  percentDecode_escape (spellsByte_percentEscape b) rest

/-- Whatever is escaped, the bytes are read back. -/
theorem percentDecode_percentEncode {keep : UInt8 → Bool}
    (plain : ∀ b, keep b = true → b.toNat < 0x80 ∧ b ≠ 0x25) (bs : List UInt8) :
    percentDecode (utf8 (percentEncode keep bs)) = bs := by
  induction bs with
  | nil => rfl
  | cons b bs ih =>
    rw [percentEncode, List.flatMap_cons, utf8_append]
    split
    · rename_i kept
      obtain ⟨ascii, other⟩ := plain b kept
      rw [utf8_ofNat_toNat ascii, List.singleton_append, percentDecode_cons_of_ne other]
      exact congrArg (b :: ·) ih
    · rw [percentDecode_percentEscape]
      exact congrArg (b :: ·) ih

end FleetRollout.Text
