/-! Punycode, which writes labels of domains in ASCII. What stands before the last hyphen are the
ASCII characters of a label; behind it are the gaps between the places where the others go, each
gap a number whose digits end it. -/
namespace FleetRollout.Text.Punycode

/-- The value of a digit: letters in lower case come before `0`. -/
def digit? (c : Char) : Option Nat :=
  if 'a' ≤ c && c ≤ 'z' then some (c.toNat - 'a'.toNat)
  else if c.isDigit then some (c.toNat - '0'.toNat + 26)
  else none

/-- The least digit at a place that does not end its number. -/
def threshold (bias place : Nat) : Nat := min 26 (max 1 (place - bias))

/-- Numbers have 32 bits. -/
def bound : Nat := UInt32.size

/-- Reads a gap from a place on, where a digit counts `weight` times, and gives what follows it. -/
def gap? (bias : Nat) : Nat → Nat → List Char → Option (Nat × List Char)
  | _, _, [] => none
  | place, weight, c :: cs => do
    let d ← digit? c
    let t := threshold bias place
    if bound ≤ weight then none
    else if d < t then some (d * weight, cs)
    else
      let (more, rest) ← gap? bias (place + 36) (weight * (36 - t)) cs
      return (d * weight + more, rest)

/-- A gap divided until it is small, with the places that this takes. -/
def damped (gap place : Nat) : Nat :=
  if 455 < gap then damped (gap / 35) (place + 36) else place + 36 * gap / (gap + 38)
termination_by gap
decreasing_by omega

/-- The bias after a gap, for a text that then has `size` characters. -/
def nextBias (gap size : Nat) (isFirst : Bool) : Nat :=
  let part := if isFirst then gap / 700 else gap / 2
  damped (part + part / size) 0

def char? (code : Nat) : Option Char := if code.isValidChar then some (.ofNat code) else none

structure Filling where
  text : List Char
  code : Nat := 128
  /-- Where the next gap starts. -/
  start : Nat := 0
  bias : Nat := 72

def Filling.next? (f : Filling) (gap : Nat) : Option Filling := do
  let size := f.text.length + 1
  let steps := f.start + gap
  let code := f.code + steps / size
  let place := steps % size
  let c ← char? code
  if bound ≤ steps then none
  else some ⟨f.text.take place ++ c :: f.text.drop place, code, place + 1,
    nextBias gap size (f.start = 0)⟩

/-- Fills up a text by the gaps; their number is at most the fuel. -/
def fill? : Nat → Filling → List Char → Option (List Char)
  | _, f, [] => some f.text
  | 0, _, _ => none
  | fuel + 1, f, cs => do
    let (gap, rest) ← gap? f.bias 36 1 cs
    fill? fuel (← f.next? gap) rest

def decode? (cs : List Char) : Option (List Char) :=
  let tail := (cs.reverse.takeWhile (· ≠ '-')).reverse
  let front := cs.take (cs.length - tail.length - 1)
  if front.isEmpty then fill? cs.length ⟨[], 128, 0, 72⟩ cs
  else fill? tail.length ⟨front, 128, 0, 72⟩ tail

example : decode? "egbpdaj6bu4bxfgehfvwxn".toList = some "ليهمابتكلموشعربي؟".toList := by decide +kernel
example : decode? "3b-ww4c5e180e575a65lsy2b".toList = some "3年b組金八先生".toList := by decide +kernel

def digitOf (value : Nat) : Char :=
  if value < 26 then .ofNat ('a'.toNat + value) else .ofNat ('0'.toNat + (value - 26))

def gapDigits (bias place gap : Nat) : List Char :=
  let t := threshold bias place
  if gap < t then [digitOf gap]
  else digitOf (t + (gap - t) % (36 - t)) :: gapDigits bias (place + 36) ((gap - t) / (36 - t))
termination_by gap
decreasing_by
  have : 1 ≤ threshold bias place := by unfold threshold; omega
  have := Nat.div_le_self (gap - threshold bias place) (36 - threshold bias place)
  omega

structure Writing where
  /-- The number of characters that have been written. -/
  size : Nat
  digits : List Char := []
  /-- How far the last place is behind. -/
  gap : Nat := 0
  bias : Nat := 72
  isFirst : Bool := true

namespace Writing

/-- Goes past one character of the text, and writes the gap in front of one of the given code. -/
def pass (code : Nat) (w : Writing) (c : Char) : Writing :=
  if c.toNat < code then { w with gap := w.gap + 1 }
  else if c.toNat = code then
    { size := w.size + 1, digits := w.digits ++ gapDigits w.bias 36 w.gap, gap := 0
      bias := nextBias w.gap (w.size + 1) w.isFirst, isFirst := false }
  else w

/-- Writes the characters of the given codes, the least first, when those below `start` are done. -/
def codes (text : List Char) : Nat → List Nat → Writing → Writing
  | _, [], w => w
  | start, code :: rest, w =>
    let w := { w with gap := w.gap + (code - start) * (w.size + 1) }
    let w := text.foldl (pass code) w
    codes text (code + 1) rest { w with gap := w.gap + 1 }

end Writing

def insertCode (code : Nat) : List Nat → List Nat
  | [] => [code]
  | other :: rest =>
    if code < other then code :: other :: rest
    else if code = other then other :: rest
    else other :: insertCode code rest

def encode (cs : List Char) : List Char :=
  let basic := cs.filter (·.toNat < 128)
  let others := ((cs.map Char.toNat).filter (128 ≤ ·)).foldr insertCode []
  (if basic.isEmpty then [] else basic ++ ['-']) ++
    (Writing.codes cs 128 others { size := basic.length }).digits

example : encode "ليهمابتكلموشعربي؟".toList = "egbpdaj6bu4bxfgehfvwxn".toList := by decide +kernel
example : encode "3年b組金八先生".toList = "3b-ww4c5e180e575a65lsy2b".toList := by decide +kernel

end FleetRollout.Text.Punycode
