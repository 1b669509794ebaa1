import FleetRollout.Proofs.Text.Percent

/-! What a component of an address stands for. Any text is read back from its bytes with some of them
escaped, as long as no percent sign stands for itself; and every text is read by replacing its
escapes from left to right, or not at all if that gives no text. -/
namespace FleetRollout.Text

/-- Bytes, and the same bytes with some of them escaped. Every percent sign is. -/
inductive Escapes : List UInt8 → List UInt8 → Prop where
  | nil : Escapes [] []
  | plain {b : UInt8} {bs es : List UInt8} (other : b ≠ 0x25) (tail : Escapes bs es) :
      Escapes (b :: bs) (b :: es)
  | escaped {high low : Char} {b : UInt8} {bs es : List UInt8} (spells : SpellsByte high low b)
      (tail : Escapes bs es) : Escapes (b :: bs) (utf8 ['%', high, low] ++ es)

/-- An escape stands at the front of the text. -/
def StartsEscape (cs : List Char) : Prop :=
  ∃ high low b rest, SpellsByte high low b ∧ cs = '%' :: high :: low :: rest

/-- The bytes of a text whose escapes are replaced from left to right. -/
inductive Unescapes : List Char → List UInt8 → Prop where
  | nil : Unescapes [] []
  | escape {high low : Char} {b : UInt8} {rest : List Char} {bs : List UInt8}
      (spells : SpellsByte high low b) (tail : Unescapes rest bs) :
      Unescapes ('%' :: high :: low :: rest) (b :: bs)
  | verbatim {c : Char} {rest : List Char} {bs : List UInt8} (none : ¬ StartsEscape (c :: rest))
      (tail : Unescapes rest bs) : Unescapes (c :: rest) (utf8 [c] ++ bs)

variable {cs rest : List Char} {high low c : Char} {b : UInt8} {bs es : List UInt8}

theorem lt_of_hexValue? {v : UInt8} (digit : hexValue? b = some v) : b.toNat < 0x80 := by
  have all : ∀ n : Fin 256, (hexValue? (.ofNat n)).isSome = true → n.val < 0x80 := by
    decide +kernel
  have small := all ⟨b.toNat, b.toNat_lt⟩
  rw [UInt8.ofNat_toNat, digit] at small
  exact small rfl

/-- An ASCII byte at the front of a text's bytes is its first character. -/
theorem exists_of_utf8_eq_cons (row : utf8 cs = b :: bs) (ascii : b.toNat < 0x80) :
    ∃ c tail, cs = c :: tail ∧ c.toNat < 0x80 ∧ UInt8.ofNat c.toNat = b ∧ utf8 tail = bs := by
  cases cs with
  | nil => contradiction
  | cons c tail =>
    rw [utf8_cons] at row
    by_cases wide : 0x80 ≤ c.toNat
    · have first : b ∈ String.utf8EncodeChar c := by
        obtain ⟨d, ds, bytes⟩ := List.exists_cons_of_ne_nil (String.utf8EncodeChar_ne_nil (c := c))
        rw [bytes] at row ⊢
        rw [(List.cons.inj row).1]
        exact List.mem_cons_self
      have high := le_of_mem_utf8EncodeChar wide first
      omega
    · have small : c.toNat < 0x80 := Nat.not_le.mp wide
      rw [utf8EncodeChar_of_lt small] at row
      obtain ⟨same, rest⟩ := List.cons.inj row
      exact ⟨c, tail, rfl, small, same, rest⟩

/-- A hex digit among a text's bytes is one of its characters. -/
theorem exists_hexDigit?_of_utf8_eq_cons {v : UInt8} (row : utf8 cs = b :: bs)
    (digit : hexValue? b = some v) :
    ∃ c tail d, cs = c :: tail ∧ hexDigit? c = some d ∧ utf8 tail = bs := by
  obtain ⟨c, tail, rfl, ascii, rfl, rest⟩ := exists_of_utf8_eq_cons row (lt_of_hexValue? digit)
  rw [hexValue?_ofNat ascii, Option.map_eq_some_iff] at digit
  obtain ⟨d, digit, _⟩ := digit
  exact ⟨c, tail, d, rfl, digit, rest⟩

theorem exists_spellsByte {h l : Nat} (highs : hexDigit? high = some h)
    (lows : hexDigit? low = some l) : ∃ b, SpellsByte high low b := by
  have highSmall := (hexDigit?_eq_some highs).2
  have lowSmall := (hexDigit?_eq_some lows).2
  refine ⟨.ofNat (16 * h + l), h, l, highs, lows, ?_⟩
  exact UInt8.toNat_ofNat_of_lt' (by simp only [UInt8.size]; omega)

theorem percentDecode_append_of_not_mem (plain : 0x25 ∉ bs) (es : List UInt8) :
    percentDecode (bs ++ es) = bs ++ percentDecode es := by
  induction bs with
  | nil => rfl
  | cons b bs ih =>
    rw [List.mem_cons, not_or] at plain
    rw [List.cons_append, percentDecode_cons_of_ne (Ne.symm plain.1), ih plain.2, List.cons_append]

theorem percentDecode_of_escapes (escapes : Escapes bs es) : percentDecode es = bs := by
  induction escapes with
  | nil => rfl
  | plain other _ ih => rw [percentDecode_cons_of_ne other, ih]
  | escaped spells _ ih => rw [percentDecode_escape spells, ih]

/-- A percent sign without two hex digits after it stands for itself. -/
theorem percentDecode_percent (none : ¬ StartsEscape ('%' :: rest)) :
    percentDecode (0x25 :: utf8 rest) = 0x25 :: percentDecode (utf8 rest) := by
  rw [percentDecode.eq_def]
  split
  · rename_i high low others same
    have row := (List.cons.inj same).2
    split
    · rename_i highs lows
      obtain ⟨c, tail, h, rfl, highs, row⟩ := exists_hexDigit?_of_utf8_eq_cons row highs
      obtain ⟨d, tail, l, rfl, lows, _⟩ := exists_hexDigit?_of_utf8_eq_cons row lows
      obtain ⟨b, spells⟩ := exists_spellsByte highs lows
      exact absurd ⟨c, d, b, tail, spells, rfl⟩ none
    · rw [row]
  · rename_i b others _ same
    obtain ⟨rfl, rfl⟩ := List.cons.inj same
    rfl
  · contradiction

theorem utf8_cons_eq (c : Char) (cs : List Char) : utf8 (c :: cs) = utf8 [c] ++ utf8 cs :=
  utf8_append [c] cs

theorem percentDecode_verbatim (none : ¬ StartsEscape (c :: rest)) :
    percentDecode (utf8 (c :: rest)) = utf8 [c] ++ percentDecode (utf8 rest) := by
  by_cases percent : c = '%'
  · subst percent
    exact percentDecode_percent none
  · have plain : 0x25 ∉ utf8 [c] := by
      intro found
      have same := (mem_utf8_iff (c := '%') (by decide)).mp found
      exact percent (List.mem_singleton.mp same).symm
    rw [utf8_cons_eq, percentDecode_append_of_not_mem plain]

theorem percentDecode_of_unescapes (unescapes : Unescapes cs bs) :
    percentDecode (utf8 cs) = bs := by
  induction unescapes with
  | nil => rfl
  | @escape high low b rest bs spells _ ih =>
    rw [show '%' :: high :: low :: rest = ['%', high, low] ++ rest from rfl, utf8_append,
      percentDecode_escape spells, ih]
  | verbatim none _ ih => rw [percentDecode_verbatim none, ih]

theorem exists_unescapes (cs : List Char) : ∃ bs, Unescapes cs bs := by
  induction length : cs.length using Nat.strongRecOn generalizing cs with
  | ind n ih =>
    subst length
    cases cs with
    | nil => exact ⟨[], .nil⟩
    | cons c rest =>
      by_cases starts : StartsEscape (c :: rest)
      · obtain ⟨high, low, b, rest, spells, same⟩ := starts
        obtain ⟨bs, tail⟩ := ih rest.length (by rw [same]; simp; omega) rest rfl
        rw [same]
        exact ⟨b :: bs, .escape spells tail⟩
      · obtain ⟨bs, tail⟩ := ih rest.length (by simp) rest rfl
        exact ⟨_, .verbatim starts tail⟩

theorem utf8_of_ofUtf8? (read : ofUtf8? bs = some cs) : utf8 cs = bs := by
  unfold ofUtf8? at read
  obtain ⟨chars, decoded, rfl⟩ := Option.map_eq_some_iff.mp read
  have valid : (ByteArray.utf8Decode? bs.toByteArray).isSome = true := by rw [decoded]; rfl
  have bytes := ByteArray.utf8Encode_get_utf8Decode? (h := valid)
  simp only [decoded, Option.get_some] at bytes
  change (utf8 chars.toList).toByteArray = bs.toByteArray at bytes
  have data := congrArg (fun a : ByteArray => a.data.toList) bytes
  simpa only [List.toList_data_toByteArray] using data

theorem decodeComponent_of_percentDecode {s t : String}
    (decodes : percentDecode (bytesOfText s) = bytesOfText t) : decodeComponent s = t := by
  have read : ofUtf8? (percentDecode (utf8 s.toList)) = some t.toList := by
    rw [← ofUtf8?_utf8]
    exact congrArg ofUtf8? decodes
  unfold decodeComponent
  rw [read]
  exact String.ofList_toList

theorem decodeComponent_of_not_utf8 {s : String}
    (broken : ∀ t, bytesOfText t ≠ percentDecode (bytesOfText s)) : decodeComponent s = s := by
  unfold decodeComponent
  split
  · rename_i cs read
    refine absurd ?_ (broken (String.ofList cs))
    rw [bytesOfText, String.toList_ofList]
    exact utf8_of_ofUtf8? read
  · rfl

theorem unescapes_utf8 (none : ∀ tail, tail <:+ cs → ¬ StartsEscape tail) :
    Unescapes cs (utf8 cs) := by
  induction cs with
  | nil => exact .nil
  | cons c rest ih =>
    have tail := ih fun tail suffix => none tail (suffix.trans (List.suffix_cons c rest))
    rw [utf8_cons_eq]
    exact .verbatim (none _ List.suffix_rfl) tail

/-- A component is read back from its bytes with some of them escaped, every percent sign at least
and with hex digits of either case. Any text has its escapes replaced from left to right, if that
gives a text; otherwise, and where it has no escapes, it is left as it is. -/
theorem decodeComponent_exactly (s : String) :
    (∀ t, Escapes (bytesOfText s) (bytesOfText t) → decodeComponent t = s) ∧
    (∃ bs, Unescapes s.toList bs ∧ (∀ bs', Unescapes s.toList bs' → bs' = bs) ∧
      (∀ t, bytesOfText t = bs → decodeComponent s = t) ∧
      ((∀ t, bytesOfText t ≠ bs) → decodeComponent s = s)) ∧
    ((∀ tail, tail <:+ s.toList → ¬ StartsEscape tail) → decodeComponent s = s) := by
  refine ⟨?_, ?_, ?_⟩
  · intro t escapes
    exact decodeComponent_of_percentDecode (percentDecode_of_escapes escapes)
  · obtain ⟨bs, unescapes⟩ := exists_unescapes s.toList
    have decodes : percentDecode (bytesOfText s) = bs := percentDecode_of_unescapes unescapes
    refine ⟨bs, unescapes, ?_, ?_, ?_⟩
    · intro bs' other
      rw [← decodes]
      exact (percentDecode_of_unescapes other).symm
    · intro t text
      exact decodeComponent_of_percentDecode (decodes.trans text.symm)
    · intro broken
      rw [← decodes] at broken
      exact decodeComponent_of_not_utf8 broken
  · intro none
    exact decodeComponent_of_percentDecode (percentDecode_of_unescapes (unescapes_utf8 none))

theorem decodeComponent_exactly_mixed_case :
    bytesOfText "café" = [0x63, 0x61, 0x66, 0xC3, 0xA9] ∧ decodeComponent "caf%c3%A9" = "café" := by
  have bytes : bytesOfText "café" = [0x63, 0x61, 0x66, 0xC3, 0xA9] := by decide
  have escaped : bytesOfText "caf%c3%A9" =
      0x63 :: 0x61 :: 0x66 :: (utf8 ['%', 'c', '3'] ++ (utf8 ['%', 'A', '9'] ++ [])) := by decide
  have first : SpellsByte 'c' '3' 0xC3 := ⟨12, 3, by decide, by decide, by decide⟩
  have second : SpellsByte 'A' '9' 0xA9 := ⟨10, 9, by decide, by decide, by decide⟩
  refine ⟨bytes, (decodeComponent_exactly "café").1 _ ?_⟩
  rw [bytes, escaped]
  exact .plain (by decide) (.plain (by decide) (.plain (by decide)
    (.escaped first (.escaped second .nil))))

end FleetRollout.Text
