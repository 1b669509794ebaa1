import FleetRollout.Http.Escaping
import FleetRollout.Http.Scheme

/-! Paths of URLs. A path is walked piece by piece: a piece leads into a segment, or it is one dot
and leads nowhere, or two and leads to the place above. No step leads above a drive, which is a
letter and a colon; a bar may stand for the colon at the root of a file's path. -/
namespace FleetRollout.Http

inductive Path where
  /-- Segments, each after a slash. -/
  | segments (parts : List (List Char))
  /-- Text that is not taken apart. -/
  | plain (text : List Char)
deriving DecidableEq, Repr

def Path.chars : Path → List Char
  | segments parts => parts.flatMap ('/' :: ·)
  | plain text => text

/-- Whether a text is a drive: a letter, and a colon or a bar. -/
def isDrive : List Char → Bool
  | [letter, mark] => letter.isAlpha && (mark = ':' || mark = '|')
  | _ => false

/-- Whether a piece of a path means the place it stands at. -/
def isDot (piece : List Char) : Bool := [".", "%2e"].contains (String.ofList piece).toLower

def isDoubleDot (piece : List Char) : Bool :=
  ["..", ".%2e", "%2e.", "%2e%2e"].contains (String.ofList piece).toLower

structure Walk where
  /-- The segments, of which the last comes first. -/
  trail : List (List Char) := []
  /-- Whether the walk went into a drive at the root. -/
  onDrive : Bool := false
deriving DecidableEq, Repr

namespace Walk

/-- To the place above. A drive is not left; for schemes that do not escape a backslash, one may
stand behind it. -/
def up (w : Walk) : Walk :=
  match w.trail with
  | [] => w
  | last :: rest => if isDrive (last.takeWhile (· ≠ '\\')) then w else { w with trail := rest }

/-- What follows so many characters, not counting those that are passed over. -/
def behind : Nat → List Char → List Char
  | 0, cs => cs
  | _ + 1, [] => []
  | n + 1, c :: cs => if isPassedOver c then behind (n + 1) cs else behind n cs

/-- Whether a piece starts with a drive that a character to pass over keeps apart from the rest. -/
def splitsBehindDrive (piece : List Char) : Bool :=
  match kept piece with
  | letter :: ':' :: _ :: _ => letter.isAlpha && ((behind 2 piece).head?.any isPassedOver)
  | _ => false

def intoRoot (w : Walk) (piece text : List Char) : Walk :=
  if isDrive text then ⟨[text.take 1 ++ [':']], true⟩
  else if splitsBehindDrive piece then { w with trail := [text.drop 2, text.take 2] }
  else { w with trail := [text] }

/-- One step by a piece that is written with the given escapes. -/
def step (isFile : Bool) (escapes : List Char) (w : Walk) (piece : List Char) : Walk :=
  let text := escape escapes (kept piece)
  if isDoubleDot text then w.up
  else if isDot text then w
  else if isFile && w.trail.isEmpty then w.intoRoot piece text
  else { w with trail := text :: w.trail }

/-- The last step: one that does not lead into a segment leaves an empty segment. -/
def lastStep (isFile : Bool) (escapes : List Char) (w : Walk) (piece : List Char) : Walk :=
  let text := escape escapes (kept piece)
  let w := w.step isFile escapes piece
  if isDoubleDot text || isDot text then { w with trail := [] :: w.trail } else w

def steps (isFile : Bool) (escapes : List Char) : Walk → List (List Char) → Walk
  | w, [] => w
  | w, [piece] => w.lastStep isFile escapes piece
  | w, piece :: rest => steps isFile escapes (w.step isFile escapes piece) rest

end Walk

def pathPieces (special : Bool) : List Char → List (List Char)
  | [] => [[]]
  | c :: cs =>
    if isSlash special c then [] :: pathPieces special cs
    else match pathPieces special cs with
      | [] => [[c]]
      | first :: rest => (c :: first) :: rest

def withoutSlash (special : Bool) : List Char → List Char
  | c :: cs => if isSlash special c then cs else c :: cs
  | [] => []

/-- The segments of a path that may be empty only if the scheme is not special. -/
def segmentsOf (special : Bool) (cs : List Char) : List (List Char) :=
  if cs.isEmpty && !special then []
  else (Walk.steps false pathEscapes {} (pathPieces special (withoutSlash special cs))).trail.reverse

/-- The walk along the path of a file, from the root. -/
def fileWalk (cs : List Char) : Walk := Walk.steps true pathEscapes {} (pathPieces true cs)

/-- The segments of a file's path, of which only the last may be the first empty one. -/
def fileSegments (w : Walk) : List (List Char) :=
  match w.trail.reverse.dropWhile List.isEmpty with
  | [] => [[]]
  | parts => parts

/-- Path segments without an empty one at the end; a bare slash stays. -/
def trimmedSegments (parts : List (List Char)) : List (List Char) :=
  if 2 ≤ parts.length && parts.getLast? = some [] then parts.dropLast else parts

/-- Path segments that another one can follow: that of a bare slash gives way. -/
def openSegments (parts : List (List Char)) : List (List Char) := if parts = [[]] then [] else parts

/-- Puts a segment behind others. One or two dots add nothing; with a tab or a line end among them
they are a step. -/
def addSegment (kind : SchemeKind) (parts : List (List Char)) (segment : String) :
    List (List Char) :=
  if segment = "." || segment = ".." then parts
  else
    let start : Walk := { trail := (openSegments parts).reverse }
    let escapes := segmentEscapes kind.isSpecial
    (start.lastStep (kind = .file) escapes segment.toList).trail.reverse

def Path.add (kind : SchemeKind) (path : Path) (segments : List String) : Path :=
  match path with
  | .segments parts => .segments (segments.foldl (addSegment kind) (trimmedSegments parts))
  | .plain text => .plain text

end FleetRollout.Http
