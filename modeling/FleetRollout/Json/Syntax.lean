import FleetRollout.Text.Numeral

/-! The grammar of JSON texts. A text is read into a syntax tree that still holds what only the use
of a value decides: numbers as they are spelled, repeated keys, and strings with escapes that form
no character. -/
namespace FleetRollout.Json

open Text (hexDigit?)

structure Numeral where
  negative : Bool
  whole : List Char
  fraction : Option (List Char)
  exponent : Option Int
deriving DecidableEq, Repr

/-- A JSON text's syntax tree. A string whose escapes contain an unpaired surrogate has no text. -/
inductive Syntax where
  | null
  | bool (b : Bool)
  | number (n : Numeral)
  | str (s : Option String)
  | arr (items : List Syntax)
  | obj (members : List (Option String × Syntax))
deriving Repr, Inhabited

namespace Syntax

/-- The four characters that may stand between tokens. -/
def isSpace (c : Char) : Bool := c = ' ' || c = '\t' || c = '\n' || c = '\r'

def skipSpace (cs : List Char) : List Char := cs.dropWhile isSpace

def after? (word cs : List Char) : Option (List Char) :=
  if word.isPrefixOf cs then some (cs.drop word.length) else none

/-- A row of one digit or more, and what follows it. -/
def digitRow? (cs : List Char) : Option (List Char × List Char) :=
  match cs.takeWhile Char.isDigit with
  | [] => none
  | ds => some (ds, cs.dropWhile Char.isDigit)

/-- The whole part of a number: no zero before another digit. -/
def wholePart? (cs : List Char) : Option (List Char × List Char) :=
  match digitRow? cs with
  | some ('0' :: _ :: _, _) => none
  | found => found

def fractionPart? (cs : List Char) : Option (Option (List Char) × List Char) :=
  match cs with
  | '.' :: rest => (digitRow? rest).map fun (ds, rest) => (some ds, rest)
  | _ => some (none, cs)

def exponentSign : List Char → Bool × List Char
  | '-' :: rest => (true, rest)
  | '+' :: rest => (false, rest)
  | cs => (false, cs)

def exponentPart? (cs : List Char) : Option (Option Int × List Char) :=
  match cs with
  | 'e' :: rest | 'E' :: rest =>
    let (negative, rest) := exponentSign rest
    (digitRow? rest).map fun (ds, rest) =>
      let n : Int := Text.digitsValue ds
      (some (if negative then -n else n), rest)
  | _ => some (none, cs)

def unsigned? (negative : Bool) (cs : List Char) : Option (Syntax × List Char) := do
  let (whole, cs) ← wholePart? cs
  let (fraction, cs) ← fractionPart? cs
  let (exponent, cs) ← exponentPart? cs
  return (.number ⟨negative, whole, fraction, exponent⟩, cs)

/-- The four hex digits of a `\u` escape. -/
def hexQuad? : List Char → Option (Nat × List Char)
  | a :: b :: c :: d :: rest => do
    return (((16 * (← hexDigit? a) + (← hexDigit? b)) * 16 + (← hexDigit? c)) * 16
      + (← hexDigit? d), rest)
  | _ => none

/-- One item of a string: a character, or a UTF-16 unit written as an escape. -/
inductive Item where
  | char (c : Char)
  | unit (n : Nat)

def shortEscape? : Char → Option Char
  | '"' => some '"'
  | '\\' => some '\\'
  | '/' => some '/'
  | 'b' => some '\x08'
  | 'f' => some '\x0c'
  | 'n' => some '\n'
  | 'r' => some '\r'
  | 't' => some '\t'
  | _ => none

/-- The items of a string up to its closing quote. Control characters have to be escaped. -/
def stringItems? : Nat → List Char → Option (List Item × List Char)
  | 0, _ => none
  | _, [] => none
  | _, '"' :: rest => some ([], rest)
  | fuel + 1, '\\' :: 'u' :: rest => do
    let (n, rest) ← hexQuad? rest
    let (items, rest) ← stringItems? fuel rest
    return (.unit n :: items, rest)
  | fuel + 1, '\\' :: e :: rest => do
    let c ← shortEscape? e
    let (items, rest) ← stringItems? fuel rest
    return (.char c :: items, rest)
  | fuel + 1, c :: rest =>
    if c.toNat < 0x20 || c = '\\' then none
    else do
      let (items, rest) ← stringItems? fuel rest
      return (.char c :: items, rest)

/-- The text of some string items: units in a surrogate pair form one character, a unit of half a
pair forms none. -/
def textOf? : List Item → Option (List Char)
  | [] => some []
  | .char c :: rest => (textOf? rest).map (c :: ·)
  | .unit high :: .unit low :: rest =>
    if 0xD800 ≤ high && high < 0xDC00 then
      if 0xDC00 ≤ low && low < 0xE000 then
        (textOf? rest).map (Char.ofNat (0x10000 + (high - 0xD800) * 0x400 + (low - 0xDC00)) :: ·)
      else none
    else if 0xDC00 ≤ high && high < 0xE000 then none
    else (textOf? (.unit low :: rest)).map (Char.ofNat high :: ·)
  | .unit n :: rest =>
    if 0xD800 ≤ n && n < 0xE000 then none else (textOf? rest).map (Char.ofNat n :: ·)

def string? (cs : List Char) : Option (Option String × List Char) :=
  (stringItems? (cs.length + 1) cs).map fun (items, rest) =>
    ((textOf? items).map String.ofList, rest)

/-- A key and the colon after it, at the opening quote of the key. -/
def key? (cs : List Char) : Option (Option String × List Char) :=
  match cs with
  | '"' :: rest => do
    let (key, rest) ← string? rest
    let rest ← after? [':'] (skipSpace rest)
    return (key, rest)
  | _ => none

mutual

/-- Reads one value after optional space. The fuel bounds the number of values and separators. -/
def value? : Nat → List Char → Option (Syntax × List Char)
  | 0, _ => none
  | fuel + 1, cs =>
    match skipSpace cs with
    | '"' :: rest => (string? rest).map fun (s, rest) => (.str s, rest)
    | '[' :: rest =>
      match skipSpace rest with
      | ']' :: rest => some (.arr [], rest)
      | rest => (items? fuel rest).map fun (items, rest) => (.arr items, rest)
    | '\x7b' :: rest =>
      match skipSpace rest with
      | '\x7d' :: rest => some (.obj [], rest)
      | rest => (members? fuel rest).map fun (members, rest) => (.obj members, rest)
    | '-' :: rest => unsigned? true rest
    | 'n' :: rest => (after? ['u', 'l', 'l'] rest).map fun rest => (.null, rest)
    | 't' :: rest => (after? ['r', 'u', 'e'] rest).map fun rest => (.bool true, rest)
    | 'f' :: rest => (after? ['a', 'l', 's', 'e'] rest).map fun rest => (.bool false, rest)
    | cs => unsigned? false cs

/-- The items of an array that is not empty, up to its closing bracket. -/
def items? : Nat → List Char → Option (List Syntax × List Char)
  | 0, _ => none
  | fuel + 1, cs => do
    let (item, cs) ← value? fuel cs
    match skipSpace cs with
    | ',' :: rest =>
      let (items, rest) ← items? fuel rest
      return (item :: items, rest)
    | ']' :: rest => return ([item], rest)
    | _ => none

/-- The members of an object that is not empty, up to its closing brace. -/
def members? : Nat → List Char → Option (List (Option String × Syntax) × List Char)
  | 0, _ => none
  | fuel + 1, cs => do
    let (key, cs) ← key? (skipSpace cs)
    let (value, cs) ← value? fuel cs
    match skipSpace cs with
    | ',' :: rest =>
      let (members, rest) ← members? fuel rest
      return ((key, value) :: members, rest)
    | '\x7d' :: rest => return ([(key, value)], rest)
    | _ => none

end

def ofChars? (cs : List Char) : Option Syntax := do
  let (v, rest) ← value? (2 * cs.length + 2) cs
  if (skipSpace rest).isEmpty then some v else none

def ofString? (s : String) : Option Syntax := ofChars? s.toList

end Syntax
end FleetRollout.Json
