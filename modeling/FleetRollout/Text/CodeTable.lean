import FleetRollout.Text.Numeral
import FleetRollout.Text.Split

/-! Tables of code points, kept as text: words with blanks between them and numbers in hex. A word of
a set is a run of code points, `41-5a`, or every second one of a run, `100~12e`. A word of a map has
a colon after its run and then the text of the run's first code point, `bd:31.2044.32`; a text of one
character moves along with the run. -/
namespace FleetRollout.Text

def words (cs : List Char) : List (List Char) :=
  let add (c : Char) : List (List Char) → List (List Char)
    | [] => [[c]]
    | word :: rest => (c :: word) :: rest
  (cs.foldr (fun c ws => if c = ' ' || c = '\n' then [] :: ws else add c ws) []).filter
    fun word => !word.isEmpty

/-- The code points from the first to the last: all of them, or every second one. -/
structure CodeRun where
  first : Nat
  last : Nat
  isSparse : Bool := false
deriving DecidableEq, Repr

namespace CodeRun

def contains (r : CodeRun) (code : Nat) : Bool :=
  r.first ≤ code && code ≤ r.last && (!r.isSparse || (code - r.first) % 2 = 0)

def ofWord? (word : List Char) : Option CodeRun :=
  match cut '-' word, cut '~' word with
  | some (first, last), _ => return ⟨← radixValue? 16 first, ← radixValue? 16 last, false⟩
  | none, some (first, last) => return ⟨← radixValue? 16 first, ← radixValue? 16 last, true⟩
  | none, none => return ⟨← radixValue? 16 word, ← radixValue? 16 word, false⟩

end CodeRun

abbrev CodeSet := List CodeRun

namespace CodeSet

def ofText (s : String) : CodeSet := (words s.toList).filterMap CodeRun.ofWord?

def contains (set : CodeSet) (c : Char) : Bool := set.any (·.contains c.toNat)

end CodeSet

/-- A run of code points and the text of its first. -/
structure CodeRule where
  run : CodeRun
  text : List Nat
deriving DecidableEq, Repr

namespace CodeRule

def apply (r : CodeRule) (code : Nat) : List Char :=
  match r.text with
  | [single] => [.ofNat (single + (code - r.run.first))]
  | text => text.map Char.ofNat

def ofWord? (word : List Char) : Option CodeRule := do
  let (run, text) ← cut ':' word
  let codes ← if text.isEmpty then some [] else (pieces '.' text).mapM (radixValue? 16)
  return ⟨← CodeRun.ofWord? run, codes⟩

end CodeRule

abbrev CodeMap := List CodeRule

namespace CodeMap

def ofText (s : String) : CodeMap := (words s.toList).filterMap CodeRule.ofWord?

def get? (map : CodeMap) (c : Char) : Option (List Char) :=
  (map.find? (·.run.contains c.toNat)).map (·.apply c.toNat)

def key? (map : CodeMap) (text : List Char) : Option Char :=
  (map.find? fun r => r.text = text.map Char.toNat).map fun r => .ofNat r.run.first

end CodeMap

example : (CodeSet.ofText "41-5a\n100~12e").contains 'Ă' = true := by decide +kernel
example : (CodeSet.ofText "41-5a\n100~12e").contains 'ă' = false := by decide +kernel
example : (CodeMap.ofText "41-5a:61 bd:31.2044.32 ad:").get? 'C' = some ['c'] := by decide +kernel
example : (CodeMap.ofText "41-5a:61 bd:31.2044.32 ad:").get? '½' = some ['1', '⁄', '2'] := by
  decide +kernel

end FleetRollout.Text
