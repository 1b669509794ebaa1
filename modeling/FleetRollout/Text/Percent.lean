import FleetRollout.Text.Utf8

/-! Percent-encoding: a byte written as `%` and two hex digits. Decoding keeps malformed escapes
as they stand, so every text decodes to some bytes. -/
namespace FleetRollout.Text

/-- The value of an ASCII byte as a hex digit of either case. -/
def hexValue? (b : UInt8) : Option UInt8 :=
  if 0x30 ≤ b && b ≤ 0x39 then some (b - 0x30)
  else if 0x41 ≤ b && b ≤ 0x46 then some (b - 0x41 + 10)
  else if 0x61 ≤ b && b ≤ 0x66 then some (b - 0x61 + 10)
  else none

/-- Replaces each `%` with two hex digits by its byte, from left to right. -/
def percentDecode : List UInt8 → List UInt8
  | 0x25 :: high :: low :: rest =>
    match hexValue? high, hexValue? low with
    | some h, some l => (16 * h + l) :: percentDecode rest
    | _, _ => 0x25 :: percentDecode (high :: low :: rest)
  | b :: rest => b :: percentDecode rest
  | [] => []

def upperHexDigit (n : Nat) : Char := (Nat.digitChar n).toUpper

def percentEscape (b : UInt8) : List Char :=
  ['%', upperHexDigit (b.toNat / 16), upperHexDigit (b.toNat % 16)]

/-- Writes the bytes that `keep` accepts as ASCII characters and escapes the others. -/
def percentEncode (keep : UInt8 → Bool) (bs : List UInt8) : List Char :=
  bs.flatMap fun b => if keep b then [Char.ofNat b.toNat] else percentEscape b

/-- Decodes the escapes of a text; a text whose bytes are then not UTF-8 is left alone. -/
def decodeComponent (s : String) : String :=
  match ofUtf8? (percentDecode (utf8 s.toList)) with
  | some cs => String.ofList cs
  | none => s

theorem percentDecode_of_not_mem {bs : List UInt8} (h : 0x25 ∉ bs) : percentDecode bs = bs := by
  induction bs with
  | nil => rfl
  | cons b bs ih =>
    simp only [List.mem_cons, not_or] at h
    unfold percentDecode
    split
    · next heq => simp only [List.cons.injEq] at heq; exact absurd heq.1.symm h.1
    · next heq =>
      simp only [List.cons.injEq] at heq
      obtain ⟨rfl, rfl⟩ := heq
      rw [ih h.2]
    · next heq => simp at heq

end FleetRollout.Text
