import FleetRollout.Http.Client

/-! Redirections. A response may send the client on to another URL, to ask there for the same or to
get what is there; the client goes along so many times. -/
namespace FleetRollout.Http

open Text

namespace Url

def isWeb (u : Url) : Bool := ["http", "https"].contains (String.ofList u.scheme)

def knownPort? (u : Url) : Option Nat :=
  match u.authority.bind Authority.port, u.kind with
  | some port, _ => some port
  | none, .web port => some port
  | none, _ => none

def sharesServer (u v : Url) : Bool :=
  u.authority.map Authority.host = v.authority.map Authority.host && u.knownPort? = v.knownPort?

/-- The URL on the same server with this path, query and fragment. -/
def atPath (base : Url) (cs : List Char) : Url :=
  withRest base.scheme true base.authority (segmentsOf true (pathPart cs)) cs

/-- The path of the directory that a URL lies in. -/
def directoryChars (u : Url) : List Char :=
  match u.path with
  | .segments parts => (Path.segments parts.dropLast).chars ++ ['/']
  | .plain _ => ['/']

/-- Reads a text without a scheme from a page of the web. -/
def relative? (base : Url) (cs : List Char) : Option Url :=
  match cs with
  | [] => some { base with fragment := none }
  | '#' :: _ => some { base with fragment := (queryAndFragment true cs).2 }
  | '?' :: _ =>
    let (query, fragment) := queryAndFragment true cs
    some { base with query, fragment }
  | first :: rest =>
    if isSlash true first then
      if rest.head?.any (isSlash true) then
        let place := match cs with
          | '/' :: '/' :: place => place
          | _ => cs.dropWhile (isSlash true)
        (ofAuthority base.scheme base.kind place).toOption
      else some (base.atPath cs)
    else some (base.atPath (base.directoryChars ++ cs))

/-- Reads a text from a page of the web, as a browser follows a link. The scheme of the page may
stand before a path. -/
def join? (base : Url) (cs : List Char) : Option Url :=
  let text := kept (stripped cs)
  match scheme? text with
  | none => base.relative? text
  | some (scheme, rest) =>
    if scheme = base.scheme && (rest.takeWhile (isSlash true)).length < 2 then base.relative? rest
    else (ofChars text).toOption

end Url

/-- What a client does that is sent on. -/
inductive Redirection where
  /-- It asks for the same again. -/
  | again
  /-- It gets what is there. -/
  | instead
deriving DecidableEq, Repr

def Redirection.ofStatus? (status : UInt16) : Option Redirection :=
  if [307, 308].contains status then some .again
  else if [301, 302, 303].contains status then some .instead
  else none

/-- Where a response sends the client, if it says so in UTF-8. -/
def Response.location? (r : Response) : Option (List Char) := do
  let header ← r.headers.find? fun h => h.1.toLower = "location"
  ofUtf8? ((Response.headerValue header.2).map fun c => .ofNat c.toNat)

/-- The request to another URL. Only the server that it was meant for gets the token. -/
def Request.at (r : Request) (url : Url) : Request :=
  { r with url, authorization := if r.url.sharesServer url then r.authorization else none }

/-- How locations are read: from the URL that was asked. -/
abbrev Locating := Url → List Char → Option Url

/-- The request to go on with after a response, if that sends the client on. -/
def Request.redirected? (locate : Locating) (r : Request) (response : Response) :
    Option Request := do
  let redirection ← Redirection.ofStatus? response.status
  let moved := r.at (← locate r.url (← response.location?))
  match redirection with
  | .again => return moved
  | .instead => return { moved with method := .get, body := none }

def maxRedirections : Nat := 10

/-- Sends a request, and goes on with the one that the response leads to if there is one. -/
def hop (locate : Locating) (goOn : Request → Program (Except HttpFault Response))
    (request : Request) : Program (Except HttpFault Response) := do
  if !request.url.isWeb then return .error .foreignScheme
  if Client.maxUrlSize < request.url.toText.utf8ByteSize then return .error .unsendable
  match ← exchange request with
  | .error fault => return .error fault
  | .ok response =>
    match request.redirected? locate response with
    | none => return .ok response
    | some next => goOn next

/-- Sends a request and goes along where responses lead, so many times. -/
def follow (locate : Locating) : Nat → Request → Program (Except HttpFault Response)
  | 0 => hop locate fun _ => return .error .redirectedTooOften
  | hops + 1 => hop locate (follow locate hops)

end FleetRollout.Http
