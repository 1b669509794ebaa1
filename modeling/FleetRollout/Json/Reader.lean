import FleetRollout.Json.Basic
import FleetRollout.Json.Syntax

/-! Reading typed values out of a JSON syntax tree. Records are read from objects, whose unknown
members are passed over unread, or from arrays of their fields in order. -/
namespace FleetRollout.Json

/-- Reads a value at a nesting level; `none` where the tree does not hold one. -/
abbrev Reader (α : Type) := Nat → Syntax → Option α

def deepest : Nat := 127

def Numeral.isWhole (n : Numeral) : Bool := n.fraction.isNone && n.exponent.isNone

/-- Takes digits into a significand as long as it stays below `2 ^ 64`, and gives the others. -/
def Numeral.absorb : Nat → List Char → Nat × List Char
  | significand, [] => (significand, [])
  | significand, d :: ds =>
    let next := 10 * significand + (d.toNat - '0'.toNat)
    if next < UInt64.size then absorb next ds else (significand, d :: ds)

/-- A numeral as a binary64 number; one past the largest number is refused. -/
def Numeral.float? (n : Numeral) : Option Binary64 :=
  let (whole, dropped) := absorb 0 n.whole
  let fraction := n.fraction.getD []
  let (significand, unread) := absorb whole fraction
  let exponent : Int :=
    dropped.length - (fraction.length - unread.length : Nat) + n.exponent.getD 0
  (Magnitude.ofDecimal? significand exponent).map fun m => ⟨n.negative, m⟩

/-- A numeral as a value: an integer of 64 bits if it is spelled as one, else binary64. -/
def Numeral.value? (n : Numeral) : Option Json :=
  let size := Text.digitsValue n.whole
  if n.isWhole && !n.negative && size ≤ greatestInt then some (.int size)
  else if n.isWhole && n.negative && 0 < size && leastInt ≤ -(size : Int) then some (.int (-size))
  else n.float?.map .float

def Numeral.natural? (n : Numeral) : Option Nat :=
  if n.isWhole && !n.negative then some (Text.digitsValue n.whole) else none

namespace Reader

mutual

/-- Any value. Of the members of one key the last one holds. -/
def value : Nat → Syntax → Option Json
  | _, .null => some .null
  | _, .bool b => some (.bool b)
  | _, .number n => n.value?
  | _, .str s => s.map .str
  | level, .arr items => if level < deepest then (values (level + 1) items).map .arr else none
  | level, .obj members =>
    if level < deepest then
      (entries (level + 1) members).map fun es => .obj (Dict.ofList es).entries
    else none

def values : Nat → List Syntax → Option (List Json)
  | _, [] => some []
  | level, item :: rest => do return (← value level item) :: (← values level rest)

def entries : Nat → List (Option String × Syntax) → Option (List (String × Json))
  | _, [] => some []
  | level, (key, item) :: rest => do
    let v ← value level item
    return (← key, v) :: (← entries level rest)

end

def map : Reader (Dict Json)
  | level, .obj members => if level < deepest then (entries (level + 1) members).map .ofList else none
  | _, _ => none

def bool : Reader Bool
  | _, .bool b => some b
  | _, _ => none

def string : Reader String
  | _, .str s => s
  | _, _ => none

def below (bound : Nat) : Reader { n : Nat // n < bound }
  | _, .number numeral =>
    match numeral.natural? with
    | some n => if h : n < bound then some ⟨n, h⟩ else none
    | none => none
  | _, _ => none

def uint16 : Reader UInt16 :=
  fun level s => (below UInt16.size level s).map fun ⟨n, h⟩ => .ofNatLT n h

def uint32 : Reader UInt32 :=
  fun level s => (below UInt32.size level s).map fun ⟨n, h⟩ => .ofNatLT n h

def uint64 : Reader UInt64 :=
  fun level s => (below UInt64.size level s).map fun ⟨n, h⟩ => .ofNatLT n h

def plainWord (words : List (String × α)) : Reader α
  | _, .str (some s) => Dict.lookup s words
  | _, _ => none

/-- One of some words. A word may also be the key of an object whose one member is `null`. -/
def word (words : List (String × α)) : Reader α
  | _, .obj [(some s, .null)] => Dict.lookup s words
  | level, s => plainWord words level s

def nullable (read : Reader α) : Reader (Option α)
  | _, .null => some none
  | level, s => (read level s).map some

def list (read : Reader α) : Reader (List α)
  | level, .arr items => items.mapM (read (level + 1))
  | _, _ => none

end Reader

/-- The known fields of a record and the level of their values. -/
structure Record where
  level : Nat
  fields : List (String × Syntax)

namespace Record

/-- The members with known names. Every key has to have a text. -/
def known (names : List String) :
    List (Option String × Syntax) → Option (List (String × Syntax))
  | [] => some []
  | (none, _) :: _ => none
  | (some key, v) :: rest =>
    (known names rest).map fun es => if names.contains key then (key, v) :: es else es

def distinct : List (String × Syntax) → Bool
  | [] => true
  | (key, _) :: rest => !(rest.any (·.1 = key)) && distinct rest

/-- A record with fields of the given names, in any order in an object, in this order in an array.
A known name that occurs twice is refused, and so is an array with more items than fields. -/
def read (names : List String) : Reader Record
  | level, .obj members => do
    let fields ← known names members
    if distinct fields then some ⟨level + 1, fields⟩ else none
  | level, .arr items =>
    if items.length ≤ names.length then some ⟨level + 1, names.zip items⟩ else none
  | _, _ => none

def required (r : Record) (name : String) (read : Reader α) : Option α :=
  (Dict.lookup name r.fields).bind (read r.level)

def withDefault (r : Record) (name : String) (default : α) (read : Reader α) : Option α :=
  match Dict.lookup name r.fields with
  | none => some default
  | some s => read r.level s

def optional (r : Record) (name : String) (read : Reader α) : Option (Option α) :=
  r.withDefault name none (.nullable read)

end Record

/-- Reads a text that holds one value and nothing else. -/
def Reader.ofString? (read : Reader α) (text : String) : Option α :=
  (Syntax.ofString? text).bind (read 0)

end FleetRollout.Json
