import FleetRollout.Text.NormalForm.Table

/-! The composed normal form: texts that mean the same characters have it in common. A text is taken
apart, the marks on each character are sorted by their classes, and what can be composed is. -/
namespace FleetRollout.Text

/-- The class of a mark, and 0 for any other character. -/
def combiningClass (c : Char) : Nat :=
  ((markClasses.find? (·.codes.contains c)).map (·.number)).getD 0

-- Syllables of Hangul are in the order of their first consonants, then of their vowels, then of the
-- consonants that end them, of which there may be none.

def hangulFirst : Nat := 0xAC00
def hangulSize : Nat := 19 * 21 * 28

/-- The two parts of a syllable: its last consonant and the rest, or consonant and vowel. -/
def syllableParts? (c : Char) : Option (Char × Char) :=
  let n := c.toNat - hangulFirst
  if c.toNat < hangulFirst || hangulSize ≤ n then none
  else if n % 28 = 0 then some (.ofNat (0x1100 + n / (21 * 28)), .ofNat (0x1161 + n / 28 % 21))
  else some (.ofNat (c.toNat - n % 28), .ofNat (0x11A7 + n % 28))

def syllable? (a b : Char) : Option Char :=
  let consonant := a.toNat - 0x1100
  let vowel := b.toNat - 0x1161
  let last := b.toNat - 0x11A7
  if 0x1100 ≤ a.toNat && consonant < 19 && 0x1161 ≤ b.toNat && vowel < 21 then
    some (.ofNat (hangulFirst + (consonant * 21 + vowel) * 28))
  else if (syllableParts? a).isSome && (a.toNat - hangulFirst) % 28 = 0 && 0 < last && last < 28 then
    some (.ofNat (a.toNat + last))
  else none

def parts? (c : Char) : Option (Char × Char) :=
  match compositions.get? c with
  | some [a, b] => some (a, b)
  | _ => syllableParts? c

def composed? (a b : Char) : Option Char :=
  match compositions.key? [a, b] with
  | some c => some c
  | none => syllable? a b

/-- A character taken apart as often as the fuel allows; only the first part can be composed again. -/
def decompose : Nat → Char → List Char
  | 0, c => [c]
  | fuel + 1, c =>
    match parts? c with
    | some (a, b) => decompose fuel a ++ [b]
    | none => [c]

def maxParts : Nat := 4

/-- Puts a character before others, behind the marks of lower classes. -/
def placeMark (c : Char) : List Char → List Char
  | [] => [c]
  | d :: rest =>
    if 0 < combiningClass d && combiningClass d < combiningClass c then d :: placeMark c rest
    else c :: d :: rest

def sortMarks (cs : List Char) : List Char := cs.foldr placeMark []

/-- Composes a character with the marks and characters behind it; those of the given marks that have
been passed, the last of them first, stay. A mark is out of reach behind one of its own class or a
higher one. -/
def composeFrom (c : Char) (passed : List Char) : List Char → List Char
  | [] => c :: passed.reverse
  | d :: rest =>
    let isReached := passed.head?.all (combiningClass · < combiningClass d)
    match if isReached then composed? c d else none with
    | some e => composeFrom e passed rest
    | none =>
      if combiningClass d = 0 then c :: passed.reverse ++ composeFrom d [] rest
      else composeFrom c (d :: passed) rest

/-- The first code point of a mark that can be composed with a character before it. -/
def firstMarkCode : Nat := 0x300

/-- The composed normal form of a text. One that has nothing to compose is in it. -/
def normalForm (cs : List Char) : List Char :=
  if cs.all (·.toNat < firstMarkCode) then cs
  else match sortMarks (cs.flatMap (decompose maxParts)) with
    | [] => []
    | c :: rest => composeFrom c [] rest

end FleetRollout.Text
