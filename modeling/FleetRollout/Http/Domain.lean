import FleetRollout.Http.Domain.Characters
import FleetRollout.Text.Direction
import FleetRollout.Text.Joining
import FleetRollout.Text.Mark
import FleetRollout.Text.Punycode

/-! Domains. Each is read into one form whatever its case and its way of composing characters, and is
written in ASCII: a label with other characters is written in Punycode, behind a sign of that. A
label that bears the sign has to stand for one that is written so. -/
namespace FleetRollout.Http

open Text

def isForbidden (c : Char) : Bool :=
  c.toNat ≤ 0x20 || c.toNat = 0x7F ||
    ['%', '#', '/', ':', '<', '>', '?', '@', '[', '\\', ']', '^', '|'].contains c

def isAscii (cs : List Char) : Bool := cs.all (·.toNat < 0x80)

/-- What a character of a domain is read as; `none` if it may not stand in one. -/
def mapped? (c : Char) : Option (List Char) :=
  if c.toNat < 0x80 then some [c.toLower]
  else if domainCodes.contains c then some [c]
  else domainMapping.get? c

structure Label where
  /-- The label as it is read. -/
  text : List Char
  /-- The label as it is written. -/
  ascii : List Char
deriving DecidableEq, Repr

namespace Label

def maxLength : Nat := 1000

def maxCodeLength : Nat := 2000

/-- What a label that is not all ASCII has to fulfil. -/
def isSound (text : List Char) : Bool :=
  text.length ≤ maxLength && !text.head?.any isMark && joinersInPlace [] text

/-- The text of a label in Punycode: it is not all ASCII, it is as a domain is read, and it holds no
separator. -/
def decode? (code : List Char) : Option (List Char) := do
  if maxCodeLength < code.length then none
  let text ← Punycode.decode? code
  if !isAscii text && text.all (fun c => mapped? c = some [c] && !isForbidden c && c ≠ '.')
      && normalForm text = text && isSound text then some text
  else none

def ofChars? (cs : List Char) : Option Label :=
  match cs with
  | 'x' :: 'n' :: '-' :: '-' :: code =>
    if isAscii cs then (decode? code).map (⟨·, cs⟩) else none
  | _ =>
    if isAscii cs then some ⟨cs, cs⟩
    else if isSound cs then some ⟨cs, "xn--".toList ++ Punycode.encode cs⟩
    else none

end Label

/-- A domain in its normal form; where one label turns the direction of writing, all of them have to
show theirs. -/
def asciiDomain? (cs : List Char) : Option (List Char) := do
  let text := normalForm (← cs.mapM mapped?).flatten
  if text.any isForbidden then none
  let labels ← (pieces '.' text).mapM Label.ofChars?
  if labels.any (·.text.any Direction.isTurnedBy)
      && !labels.all (fun label => Direction.isLabel (label.text.map .ofChar)) then none
  return ['.'].intercalate (labels.map (·.ascii))

end FleetRollout.Http
