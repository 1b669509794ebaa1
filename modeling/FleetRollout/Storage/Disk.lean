import FleetRollout.Storage.File
import FleetRollout.Text.Split

/-! Directories and files in memory. They answer what programs ask of files, so a program that
uses files can be run on a disk as a function. -/
namespace FleetRollout.Storage

inductive Node where
  | directory
  | file (text : String)
deriving DecidableEq, Repr

/-- The names that lead to a place from the root. -/
abbrev Place := List String

/-- A tree of directories and files; the root is always there. -/
structure Disk where
  nodes : List (Place × Node) := []
  /-- Where relative paths start. -/
  workingDirectory : Place := []
deriving Repr, Inhabited

namespace Disk

def node? (d : Disk) (place : Place) : Option Node :=
  if place.isEmpty then some .directory else d.nodes.lookup place

def put (d : Disk) (place : Place) (node : Node) : Disk :=
  { d with nodes := (place, node) :: d.nodes.filter fun e => e.1 ≠ place }

def remove (d : Disk) (place : Place) : Disk :=
  { d with nodes := d.nodes.filter fun e => !place.isPrefixOf e.1 }

def parts (path : String) : List String :=
  ((Text.pieces '/' path.toList).map String.ofList).filter fun name => !name.isEmpty

def endsInSlash (path : String) : Bool := path.toList.getLast? = some '/'

/-- The names to follow along a path; a slash at the end asks for a directory, as a dot does. -/
def names (path : String) : List String :=
  if endsInSlash path then parts path ++ ["."] else parts path

def start (d : Disk) (path : String) : Place :=
  if path.toList.head? = some '/' then [] else d.workingDirectory

/-- Follows names from a place. All places on the way have to be directories; the last one need not
exist. -/
def walk (d : Disk) : Place → List String → Except FileFault Place
  | place, [] => .ok place
  | place, name :: rest =>
    match d.node? place with
    | none => .error .notFound
    | some (.file _) => .error .notADirectory
    | some .directory =>
      if name = "." then d.walk place rest
      else if name = ".." then d.walk place.dropLast rest
      else d.walk (place ++ [name]) rest

def locate (d : Disk) (path : String) : Except FileFault Place :=
  if path.isEmpty then .error .notFound else d.walk (d.start path) (names path)

def examine (d : Disk) (path : String) : Except FileFault Unit := do
  if (d.node? (← d.locate path)).isNone then throw .notFound

def read (d : Disk) (path : String) : Except FileFault String := do
  match d.node? (← d.locate path) with
  | some (.file text) => return text
  | some .directory => throw .isADirectory
  | none => throw .notFound

def makeDirectory (d : Disk) (from_ : Place) (path : List String) : Except FileFault Disk := do
  let place ← d.walk from_ path
  if (d.node? place).isSome then throw .alreadyExists else return d.put place .directory

/-- Takes a directory that could not be made for made if it is there. -/
def orPresent (d : Disk) (from_ : Place) (path : List String) (fault : FileFault) :
    Except FileFault Disk :=
  match d.walk from_ path with
  | .ok place => if d.node? place = some .directory then .ok d else .error fault
  | .error _ => .error fault

/-- Makes the directory that the first `n` names lead to, and those on the way to it. -/
def makeDirectories (d : Disk) (from_ : Place) (path : List String) :
    Nat → Except FileFault Disk
  | 0 => .ok d
  | n + 1 =>
    match d.makeDirectory from_ (path.take (n + 1)) with
    | .ok made => .ok made
    | .error .notFound =>
      match d.makeDirectories from_ path n with
      | .error fault => .error fault
      | .ok d =>
        match d.makeDirectory from_ (path.take (n + 1)) with
        | .ok made => .ok made
        | .error fault => d.orPresent from_ (path.take (n + 1)) fault
    | .error fault => d.orPresent from_ (path.take (n + 1)) fault

def text? (d : Disk) (place : Place) : Option String :=
  match d.node? place with
  | some (.file text) => some text
  | _ => none

/-- Changes the text of a file, which need not exist. A path with a slash or dots at its end is that
of a directory. -/
def update (d : Disk) (path : String) (change : Option String → String) : Except FileFault Disk := do
  if path.isEmpty then throw .notFound
  let place ← d.walk (d.start path) (parts path)
  if endsInSlash path || [some ".", some ".."].contains (parts path).getLast? then
    throw .isADirectory
  match d.node? place with
  | some .directory => throw .isADirectory
  | _ => return d.put place (.file (change (d.text? place)))

def makeParents (d : Disk) (path : String) : Except FileFault Disk :=
  let parents := ((parts path).filter (· ≠ ".")).dropLast
  d.makeDirectories (d.start path) parents parents.length

/-- Replaces the text of a file, whose directory is made if it is missing. -/
def write (d : Disk) (path text : String) : Except FileFault Disk := do
  let d ← d.makeParents path
  d.update path fun _ => text

def append (d : Disk) (path text : String) : Except FileFault Disk :=
  d.update path fun before => before.getD "" ++ text

/-- Opens a file to append to. Its directory is made only if that fails at first. -/
def openLog (d : Disk) (path : String) : Except FileFault Disk :=
  match d.append path "" with
  | .ok opened => .ok opened
  | .error _ => do
    let d ← d.makeParents path
    d.append path ""

/-- The paths of all files below a place, from there on and in order. -/
def filesBelow (d : Disk) (place : Place) : List String :=
  let files := d.nodes.filterMap fun e =>
    match e.2 with
    | .file _ => if place.isPrefixOf e.1 then some ("/".intercalate (e.1.drop place.length), ()) else none
    | .directory => none
  (Dict.ofList files).keys

def answer (d : Disk) : (q : Question) → q.Answer × Disk
  | .examine path => (d.examine path, d)
  | .read path => (d.read path, d)
  | .write path text =>
    match d.write path text with
    | .ok written => (.ok (), written)
    | .error fault => (.error fault, d)

def run {α : Type} (p : Program α) : StateM Disk α :=
  Dialogue.interpret (I := interface) (m := StateM Disk) (fun q d => answer d q) p

end Disk
end FleetRollout.Storage
