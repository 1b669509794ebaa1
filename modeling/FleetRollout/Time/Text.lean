import FleetRollout.Text.Blank
import FleetRollout.Text.Numeral
import FleetRollout.Time.Instant

/-! Instants as texts. They are written in universal time with the fewest groups of three fraction
digits. Reading follows RFC 3339 loosely: single digits, space around the separators, years of any
length after a sign, and any offset of less than a day. -/
namespace FleetRollout.Instant
open Text

/-- A year: four digits, or a sign and at least four digits outside 0 to 9999. -/
def yearText (year : Int) : List Char :=
  let size := paddedDigits 4 year.natAbs
  if year < 0 then '-' :: size else if 9999 < year then '+' :: size else size

/-- A fraction of a second in the fewest of 0, 3, 6 or 9 digits that lose nothing. -/
def fractionText (nano : Nat) : List Char :=
  if nano = 0 then []
  else if nano % 1000000 = 0 then '.' :: paddedDigits 3 (nano / 1000000)
  else if nano % 1000 = 0 then '.' :: paddedDigits 6 (nano / 1000)
  else '.' :: paddedDigits 9 nano

def dateText (t : Instant) : List Char :=
  let d := t.date
  yearText d.year ++ '-' :: paddedDigits 2 d.month ++ '-' :: paddedDigits 2 d.day

def chars (t : Instant) : List Char :=
  let s := t.secondOfDay
  t.dateText ++ 'T' :: paddedDigits 2 (s / 3600) ++ ':' :: paddedDigits 2 (s / 60 % 60) ++
    ':' :: paddedDigits 2 (s % 60 + t.nano / nanosPerSecond) ++
    fractionText (t.nano % nanosPerSecond) ++ ['Z']

def toText (t : Instant) : String := String.ofList t.chars

/-- A number of at least one and at most `width` digits, and what follows it. -/
def digitsUpTo? (width : Nat) (cs : List Char) : Option (Nat × List Char) :=
  match (cs.take width).takeWhile Char.isDigit with
  | [] => none
  | ds => some (digitsValue ds, cs.drop ds.length)

def number? (width : Nat) (cs : List Char) : Option (Nat × List Char) :=
  digitsUpTo? width (trimStart cs)

/-- A year after optional white space: up to four digits, or any number of them after a sign. -/
def year? (cs : List Char) : Option (Int × List Char) :=
  match trimStart cs with
  | '-' :: rest => (digitsUpTo? rest.length rest).map fun (n, rest) => (-n, rest)
  | '+' :: rest => (digitsUpTo? rest.length rest).map fun (n, rest) => (n, rest)
  | rest => (digitsUpTo? 4 rest).map fun (n, rest) => (n, rest)

def separator? (c : Char) (cs : List Char) : Option (List Char) :=
  match trimStart cs with
  | d :: rest => if d = c then some rest else none
  | [] => none

def timeMark? : List Char → Option (List Char)
  | 'T' :: rest | 't' :: rest | ' ' :: rest => some rest
  | _ => none

/-- The nanoseconds of a fraction, if there is one; digits past the ninth are passed over. -/
def fraction? : List Char → Option (Nat × List Char)
  | '.' :: rest =>
    match rest.takeWhile Char.isDigit with
    | [] => none
    | ds =>
      let kept := ds.take 9
      some (digitsValue kept * Nat.pow 10 (9 - kept.length), rest.drop ds.length)
  | cs => some (0, cs)

def digitPair? : List Char → Option (Nat × List Char)
  | a :: b :: rest => if a.isDigit && b.isDigit then some (digitsValue [a, b], rest) else none
  | _ => none

/-- The sign of an offset, the typographic minus included. -/
def offsetSign? : List Char → Option (Int × List Char)
  | '+' :: rest => some (1, rest)
  | '-' :: rest | '\u2212' :: rest => some (-1, rest)
  | _ => none

def offset? (cs : List Char) : Option (Int × List Char) :=
  match cs with
  | u :: t :: c :: rest =>
    if u.toLower = 'u' && t.toLower = 't' && c.toLower = 'c' then some (0, rest) else numeric cs
  | _ => numeric cs
where
  /-- `Z`, or a sign, hours and minutes. -/
  numeric : List Char → Option (Int × List Char)
    | 'Z' :: rest | 'z' :: rest => some (0, rest)
    | cs => do
      let (sign, cs) ← offsetSign? cs
      let (hours, cs) ← digitPair? cs
      let (minutes, cs) ← digitPair? (cs.dropWhile fun c => c = ':' || isBlank c)
      if minutes < 60 && hours < 24 then some (sign * (60 * hours + minutes : Nat), cs) else none

/-- The instant of a local date and time of day. The second 60 is a leap second. -/
def ofLocal? (d : Date) (hour minute second nano : Nat) (offset : Int) : Option Instant :=
  if d.isValid && firstDate.year ≤ d.year && d.year ≤ lastDate.year &&
      hour < 24 && minute < 60 && second ≤ 60 then
    let leap := second / 60
    let timeOfDay : Int := 3600 * hour + 60 * minute + (second - leap : Nat)
    ofParts? (d.toDays * secondsPerDay + timeOfDay - 60 * offset) (nano + leap * nanosPerSecond)
  else none

def ofChars? (cs : List Char) : Option Instant := do
  let (year, cs) ← year? cs
  let (month, cs) ← number? 2 (← separator? '-' cs)
  let (day, cs) ← number? 2 (← separator? '-' cs)
  let (hour, cs) ← number? 2 (← timeMark? cs)
  let (minute, cs) ← number? 2 (← separator? ':' cs)
  let (second, cs) ← number? 2 (← separator? ':' cs)
  let (nano, cs) ← fraction? cs
  let (offset, cs) ← offset? (trimStart cs)
  if (trimStart cs).isEmpty then ofLocal? ⟨year, month, day⟩ hour minute second nano offset
  else none

def ofText? (s : String) : Option Instant := ofChars? s.toList

end FleetRollout.Instant
