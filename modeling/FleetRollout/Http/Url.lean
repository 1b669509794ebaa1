import FleetRollout.Http.Host
import FleetRollout.Http.Path

/-! URLs: reading them the way browsers do, and writing them. All parts are kept as they are
written, with their escapes. A URL whose path is no list of segments can be read, but nothing can
be appended to it. -/
namespace FleetRollout.Http

open Text

/-- What stands between the two slashes and the path. -/
structure Authority where
  user : List Char := []
  password : List Char := []
  host : List Char
  port : Option Nat := none
deriving DecidableEq, Repr

structure Url where
  scheme : List Char
  authority : Option Authority := none
  /-- Whether `/.` keeps the path apart from the scheme, as two slashes would start an authority. -/
  isApart : Bool := false
  path : Path
  query : Option (List Char) := none
  fragment : Option (List Char) := none
deriving DecidableEq, Repr

namespace Url

def kind (u : Url) : SchemeKind := .ofScheme u.scheme

def credentialChars (a : Authority) : List Char :=
  let password := if a.password.isEmpty then [] else ':' :: a.password
  if a.user.isEmpty && a.password.isEmpty then [] else a.user ++ password ++ ['@']

def authorityChars (a : Authority) : List Char :=
  credentialChars a ++ a.host ++
    match a.port with
    | some port => ':' :: digits port
    | none => []

def placeChars (u : Url) : List Char :=
  match u.authority with
  | some a => '/' :: '/' :: authorityChars a ++ u.path.chars
  | none => if u.isApart then '/' :: '.' :: u.path.chars else u.path.chars

/-- A part that may be absent, after its mark. -/
def marked (mark : Char) : Option (List Char) → List Char
  | some part => mark :: part
  | none => []

def chars (u : Url) : List Char :=
  u.scheme ++ ':' :: u.placeChars ++ marked '?' u.query ++ marked '#' u.fragment

def toText (u : Url) : String := String.ofList u.chars

/-- Path and query, which name the resource to the host. -/
def target (u : Url) : String := String.ofList (u.path.chars ++ marked '?' u.query)

def stripped (cs : List Char) : List Char :=
  let blank (c : Char) : Bool := c.toNat ≤ 0x20
  ((cs.dropWhile blank).reverse.dropWhile blank).reverse

def isSchemeChar (c : Char) : Bool := c.isAlphanum || c = '+' || c = '-' || c = '.'

/-- The scheme in lower case, and what follows its colon. -/
def scheme? (cs : List Char) : Option (List Char × List Char) :=
  match cs, cs.dropWhile isSchemeChar with
  | first :: _, ':' :: rest =>
    if first.isAlpha then some ((cs.takeWhile isSchemeChar).map Char.toLower, rest) else none
  | _, _ => none

def endsAuthority (special : Bool) (c : Char) : Bool := isSlash special c || endsPath c

def queryAndFragment (special : Bool) (cs : List Char) : Option (List Char) × Option (List Char) :=
  let fragment (text : List Char) : List Char := escape fragmentEscapes text
  match cs with
  | '?' :: rest =>
    let query := escape (queryEscapes special)
    match cut '#' rest with
    | some (before, after) => (some (query before), some (fragment after))
    | none => (some (query rest), none)
  | '#' :: rest => (none, some (fragment rest))
  | _ => (none, none)

def withRest (scheme : List Char) (special : Bool) (authority : Option Authority)
    (segments : List (List Char)) (rest : List Char) : Url :=
  let (query, fragment) := queryAndFragment special (rest.dropWhile fun c => !endsPath c)
  { scheme, authority, query, fragment, path := .segments segments }

def pathPart (rest : List Char) : List Char := rest.takeWhile fun c => !endsPath c

/-- What stands before and after the last `@`. -/
def cutLastAt (cs : List Char) : Option (List Char × List Char) :=
  (cut '@' cs.reverse).map fun (after, before) => (before.reverse, after.reverse)

def credentials (cs : List Char) : List Char × List Char :=
  match cut ':' cs with
  | some (user, password) => (escape userEscapes user, escape userEscapes password)
  | none => (escape userEscapes cs, [])

/-- Host and port: the first colon outside brackets parts them. -/
def cutPort : Bool → List Char → List Char × Option (List Char)
  | _, [] => ([], none)
  | inside, c :: cs =>
    if c = ':' && !inside then ([], some cs)
    else
      let (host, port) := cutPort (if c = '[' then true else if c = ']' then false else inside) cs
      (c :: host, port)

/-- The port that digits spell; one that goes without saying is left out. -/
def portOf (kind : SchemeKind) (ds : List Char) : Except UrlFault (Option Nat) :=
  if ds.isEmpty then .ok none
  else if ds.all Char.isDigit && digitsValue ds < 65536 then
    .ok (if kind = .web (digitsValue ds) then none else some (digitsValue ds))
  else .error .invalidPort

/-- Reads host and port, and gives what follows the port: only where a backslash is no slash can
one end a port. -/
def hostAndPort (kind : SchemeKind) (cs : List Char) :
    Except UrlFault (List Char × Option Nat × List Char) := do
  let (name, port) := cutPort false cs
  let text ← if kind.isSpecial then host name else plainHost name
  match port with
  | none => return (text, none, [])
  | some after =>
    let ds := after.takeWhile (· ≠ '\\')
    if text.isEmpty then throw .emptyHost
    else return (text, ← portOf kind ds, after.drop ds.length)

def ofAuthority (scheme : List Char) (kind : SchemeKind) (cs : List Char) : Except UrlFault Url := do
  let text := cs.takeWhile fun c => !endsAuthority kind.isSpecial c
  let rest := cs.dropWhile fun c => !endsAuthority kind.isSpecial c
  let (user, password, place) := match cutLastAt text with
    | some (before, after) => let (u, p) := credentials before; (u, p, after)
    | none => ([], [], text)
  let named := !user.isEmpty || !password.isEmpty
  if place.isEmpty && (named || (text = ['@'] && !rest.isEmpty)) then throw .emptyHost
  let (host, port, more) ← hostAndPort kind place
  return withRest scheme kind.isSpecial (some ⟨user, password, host, port⟩)
    (segmentsOf kind.isSpecial (pathPart (more ++ rest))) (more ++ rest)

def afterSlash? (cs : List Char) : Option (List Char) :=
  match cs.dropWhile isPassedOver with
  | c :: rest => if isSlash true c then some rest else none
  | [] => none

/-- The URL of a file on a host. On a drive there is no host. -/
def fileOn (scheme host rest : List Char) (walk : Walk) : Url :=
  withRest scheme true (some { host := if walk.onDrive then [] else host }) (fileSegments walk)
    (kept rest)

/-- The URL of a file on this machine, from its path on. -/
def localFile (scheme rest : List Char) : Url := fileOn scheme [] rest (fileWalk (pathPart rest))

/-- Reads the URL of a file from behind two slashes. The host of this machine is left out, and so is
a drive in its place, which starts the path. -/
def ofFileHost (scheme cs : List Char) : Except UrlFault Url := do
  let name := kept (cs.takeWhile fun c => !endsAuthority true c)
  let rest := cs.dropWhile fun c => !endsAuthority true c
  if name.isEmpty then return localFile scheme rest
  else if isDrive name then return localFile scheme cs
  else
    let host ← host name
    if host = "localhost".toList then return localFile scheme rest
    else return fileOn scheme host rest (fileWalk (withoutSlash true (pathPart rest)))

/-- Reads the URL of a file from behind the scheme, with the characters to pass over. -/
def ofFile (scheme cs : List Char) : Except UrlFault Url :=
  match afterSlash? cs with
  | none => .ok (localFile scheme cs)
  | some path =>
    match afterSlash? path with
    | none => .ok (localFile scheme path)
    | some place => ofFileHost scheme place

/-- Reads a URL without authority; its path is taken apart only if it starts with a slash. -/
def ofPath (scheme cs : List Char) : Url :=
  match cs with
  | '/' :: _ =>
    let segments := segmentsOf false (pathPart cs)
    { withRest scheme false none segments cs with
      isApart := 2 ≤ segments.length && segments.head? = some [] }
  | _ => { withRest scheme false none [] cs with path := .plain (escape [] (pathPart cs)) }

def ofChars (cs : List Char) : Except UrlFault Url :=
  match scheme? (kept (stripped cs)) with
  | none => .error .relativeWithoutBase
  | some (scheme, rest) =>
    match SchemeKind.ofScheme scheme with
    | .web port => ofAuthority scheme (.web port) (rest.dropWhile (isSlash true))
    | .file => ofFile scheme (((stripped cs).dropWhile (· ≠ ':')).drop 1)
    | .other =>
      match rest with
      | '/' :: '/' :: rest => ofAuthority scheme .other rest
      | rest => .ok (ofPath scheme rest)

def ofText (s : String) : Except UrlFault Url := ofChars s.toList

end Url
end FleetRollout.Http
