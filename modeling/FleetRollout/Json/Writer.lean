import FleetRollout.Binary64.Shortest
import FleetRollout.Json.Basic

/-! JSON texts of values: on one line, and with one item a line, indented by two spaces. Characters
outside ASCII are written as they are. -/
namespace FleetRollout.Json

def hexPair (n : Nat) : List Char := [Nat.digitChar (n / 16), Nat.digitChar (n % 16)]

def escapedChar (c : Char) : List Char :=
  match c with
  | '"' => ['\\', '"']
  | '\\' => ['\\', '\\']
  | '\x08' => ['\\', 'b']
  | '\x0c' => ['\\', 'f']
  | '\n' => ['\\', 'n']
  | '\r' => ['\\', 'r']
  | '\t' => ['\\', 't']
  | c => if c.toNat < 0x20 then ['\\', 'u', '0', '0'] ++ hexPair c.toNat else [c]

def quote (s : String) : List Char := '"' :: s.toList.flatMap escapedChar ++ ['"']

mutual

def chars : Json → List Char
  | .null => ['n', 'u', 'l', 'l']
  | .bool true => ['t', 'r', 'u', 'e']
  | .bool false => ['f', 'a', 'l', 's', 'e']
  | .int n => signedDigits n
  | .float x => x.write
  | .str s => quote s
  | .arr [] => ['[', ']']
  | .arr (item :: rest) => '[' :: chars item ++ itemChars rest
  | .obj [] => ['\x7b', '\x7d']
  | .obj ((key, v) :: rest) => '\x7b' :: quote key ++ ':' :: chars v ++ memberChars rest

/-- Items after the first one, and the closing bracket. -/
def itemChars : List Json → List Char
  | [] => [']']
  | item :: rest => ',' :: chars item ++ itemChars rest

def memberChars : List (String × Json) → List Char
  | [] => ['\x7d']
  | (key, v) :: rest => ',' :: quote key ++ ':' :: chars v ++ memberChars rest

end

def newLine (level : Nat) : List Char := '\n' :: List.replicate (2 * level) ' '

mutual

/-- A value with one item or member a line. -/
def prettyChars (level : Nat) : Json → List Char
  | .arr (item :: rest) =>
    '[' :: newLine (level + 1) ++ prettyChars (level + 1) item ++ prettyItems level rest
  | .obj ((key, v) :: rest) =>
    '\x7b' :: newLine (level + 1) ++ quote key ++ ':' :: ' ' :: prettyChars (level + 1) v
      ++ prettyMembers level rest
  | .null => chars .null
  | .bool b => chars (.bool b)
  | .int n => chars (.int n)
  | .float x => chars (.float x)
  | .str s => chars (.str s)
  | .arr [] => chars (.arr [])
  | .obj [] => chars (.obj [])

/-- Items after the first one, and the closing bracket on its own line. -/
def prettyItems (level : Nat) : List Json → List Char
  | [] => newLine level ++ [']']
  | item :: rest =>
    ',' :: newLine (level + 1) ++ prettyChars (level + 1) item ++ prettyItems level rest

def prettyMembers (level : Nat) : List (String × Json) → List Char
  | [] => newLine level ++ ['\x7d']
  | (key, v) :: rest =>
    ',' :: newLine (level + 1) ++ quote key ++ ':' :: ' ' :: prettyChars (level + 1) v
      ++ prettyMembers level rest

end

def compact (v : Json) : String := String.ofList v.chars

def pretty (v : Json) : String := String.ofList (v.prettyChars 0)

end FleetRollout.Json
