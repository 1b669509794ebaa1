import FleetRollout.Text.Percent

/-! Which characters are escaped in which part of a URL. Controls and characters outside ASCII are
escaped everywhere. -/
namespace FleetRollout.Http

open Text

/-- Whether a byte stands for itself where `escaped` are the ASCII characters to escape. -/
def keeps (escaped : List Char) (b : UInt8) : Bool :=
  0x20 ≤ b && b < 0x7F && !escaped.any fun c => c.toNat = b.toNat

def escape (escaped cs : List Char) : List Char := percentEncode (keeps escaped) (utf8 cs)

def fragmentEscapes : List Char := [' ', '"', '<', '>', '\x60']

def pathEscapes : List Char := fragmentEscapes ++ ['#', '?', '\x7b', '\x7d']

def userEscapes : List Char := pathEscapes ++ ['/', ':', ';', '=', '@', '[', '\\', ']', '^', '|']

/-- A path segment that is given as a whole; only web schemes take a backslash for a slash. -/
def segmentEscapes (special : Bool) : List Char :=
  pathEscapes ++ ['/', '%'] ++ if special then ['\\'] else []

def queryEscapes (special : Bool) : List Char :=
  [' ', '"', '#', '<', '>'] ++ if special then ['\''] else []

/-- Whether a byte stands for itself in a key or value of a query. -/
def keepsInPair (b : UInt8) : Bool :=
  (0x30 ≤ b && b ≤ 0x39) || (0x41 ≤ b && b ≤ 0x5A) || (0x61 ≤ b && b ≤ 0x7A) ||
    b == 0x2A || b == 0x2D || b == 0x2E || b == 0x5F

/-- A byte of a key or value in a query; a space is written `+`. -/
def pairByte (b : UInt8) : List Char :=
  if b = 0x20 then ['+'] else if keepsInPair b then [Char.ofNat b.toNat] else percentEscape b

def pairText (s : String) : List Char := (utf8 s.toList).flatMap pairByte

end FleetRollout.Http
