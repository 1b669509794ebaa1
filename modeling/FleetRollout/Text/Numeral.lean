/-! Numerals of natural numbers in ASCII digits: decimal ones with and without a bound or a width,
and those to another base. -/
namespace FleetRollout.Text

/-- The value of a row of ASCII digits, most significant first. -/
def digitsValue (ds : List Char) : Nat := ds.foldl (fun n d => 10 * n + (d.toNat - '0'.toNat)) 0

def isNumeral (cs : List Char) : Bool := !cs.isEmpty && cs.all Char.isDigit

def withoutPlus : List Char → List Char
  | '+' :: rest => rest
  | cs => cs

/-- Reads an unsigned numeral below `bound`; one leading `+` is allowed. -/
def readUnsigned (bound : Nat) (cs : List Char) : Option Nat :=
  let ds := withoutPlus cs
  if isNumeral ds && digitsValue ds < bound then some (digitsValue ds) else none

/-- The decimal digits of a number, most significant first and without leading zeros. -/
def digits (n : Nat) : List Char := Nat.toDigits 10 n

/-- The digits of `n`, filled up with zeros on the left to at least `width` places. -/
def paddedDigits (width n : Nat) : List Char :=
  List.replicate (width - (digits n).length) '0' ++ digits n

def hexDigit? (c : Char) : Option Nat :=
  if c.isDigit then some (c.toNat - '0'.toNat)
  else if 'a' ≤ c && c ≤ 'f' then some (c.toNat - 'a'.toNat + 10)
  else if 'A' ≤ c && c ≤ 'F' then some (c.toNat - 'A'.toNat + 10)
  else none

/-- The value of a row of digits to a base; `none` if one is no digit to that base. -/
def radixValue? (base : Nat) (ds : List Char) : Option Nat :=
  ds.foldlM (fun n c => (hexDigit? c).bind fun d => if d < base then some (base * n + d) else none) 0

theorem readUnsigned_lt {bound n : Nat} {cs : List Char} (h : readUnsigned bound cs = some n) :
    n < bound := by
  simp only [readUnsigned] at h
  split at h <;> simp_all

def readUInt32 (cs : List Char) : Option UInt32 :=
  match h : readUnsigned UInt32.size cs with
  | some n => some (UInt32.ofNatLT n (readUnsigned_lt h))
  | none => none

def readUInt64 (cs : List Char) : Option UInt64 :=
  match h : readUnsigned UInt64.size cs with
  | some n => some (UInt64.ofNatLT n (readUnsigned_lt h))
  | none => none

end FleetRollout.Text
