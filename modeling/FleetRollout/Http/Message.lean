import FleetRollout.Http.Client
import FleetRollout.Json.Writer

/-! Requests and responses as bytes. A message has a head of lines, of which an empty one is the
last, and a body. The body of a response ends after as many bytes as its head says, after its last
chunk, or with the connection. -/
namespace FleetRollout.Http

open Text

/-- The host of a request, with the port unless it goes without saying. -/
def Request.host (r : Request) : List Char :=
  match r.url.authority with
  | some a => Url.authorityChars { a with user := [], password := [] }
  | none => []

def Request.headers (r : Request) (body : Option (List UInt8)) : List (String × List Char) :=
  [("host", r.host), ("accept", "*/*".toList), ("connection", "close".toList)] ++
    (r.authorization.toList.map fun value => ("authorization", value.toList)) ++
    match body with
    | some bytes =>
      [("content-type", "application/json".toList), ("content-length", digits bytes.length)]
    | none => []

def Request.bytes (r : Request) : List UInt8 :=
  let body := r.body.map fun json => utf8 json.compact.toList
  let line := r.method.name.toList ++ ' ' :: r.url.target.toList ++ " HTTP/1.1".toList
  let headers := (r.headers body).map fun (name, value) => name.toList ++ ": ".toList ++ value
  utf8 ((line :: headers).flatMap (· ++ ['\r', '\n']) ++ ['\r', '\n']) ++ body.getD []

/-- What the bytes of a part tell that have come so far. -/
inductive Received (α : Type) where
  /-- More bytes have to come. -/
  | incomplete
  | malformed
  /-- The part and the bytes after it. -/
  | complete (part : α) (rest : List UInt8)

namespace Received

protected def bind {α β : Type} : Received α → (α → List UInt8 → Received β) → Received β
  | complete part rest, next => next part rest
  | incomplete, _ => incomplete
  | malformed, _ => malformed

end Received

def line : List UInt8 → Received (List UInt8)
  | [] => .incomplete
  | b :: bs =>
    if b = 0x0A then .complete [] bs
    else (line bs).bind fun text rest =>
      if b = 0x0D && text.isEmpty then .complete [] rest else .complete (b :: text) rest

theorem line_length {bs text rest : List UInt8} (h : line bs = .complete text rest) :
    rest.length < bs.length := by
  induction bs generalizing text rest with
  | nil => simp [line] at h
  | cons b bs ih =>
    unfold line at h
    split at h
    · simp only [Received.complete.injEq] at h
      simp [← h.2]
    · cases hl : line bs with
      | incomplete => simp [hl, Received.bind] at h
      | malformed => simp [hl, Received.bind] at h
      | complete text' rest' =>
        have := ih hl
        simp only [hl, Received.bind] at h
        split at h <;> (simp only [Received.complete.injEq] at h; simp [← h.2]; omega)

def chars (line : List UInt8) : List Char := line.map fun b => Char.ofNat b.toNat

def lines (bs : List UInt8) : Received (List (List Char)) :=
  match _h : line bs with
  | .incomplete => .incomplete
  | .malformed => .malformed
  | .complete text rest =>
    if text.isEmpty then .complete [] rest
    else (lines rest).bind fun others rest => .complete (chars text :: others) rest
termination_by bs.length
decreasing_by exact line_length ‹_›

/-- Whether a character may stand in the first line, or in the value of a header. -/
def isTextChar (c : Char) : Bool := c = '\t' || (0x20 ≤ c.toNat && c.toNat ≠ 0x7F)

def isNameChar (c : Char) : Bool := c.isAlphanum || "!#$%&'*+-.^_\x60|~".toList.contains c

/-- The status in the first line of a response: three digits, of which the first is not zero. -/
def statusOf (line : List Char) : Option UInt16 :=
  match pieces ' ' line with
  | version :: code :: _ =>
    if ["HTTP/1.0", "HTTP/1.1"].contains (String.ofList version) && code.length = 3
        && isNumeral code && 100 ≤ digitsValue code && line.all isTextChar then
      some (.ofNat (digitsValue code))
    else none
  | _ => none

/-- Name and value of a header, with nothing between the name and the colon. -/
def headerOf (line : List Char) : Option (String × String) := do
  let (name, value) ← cut ':' line
  if !name.isEmpty && name.all isNameChar && value.all isTextChar then
    some (String.ofList name, String.ofList value)
  else none

def maxHeaders : Nat := 100

/-- Status and headers of a response, which has no body yet. -/
def head (bs : List UInt8) : Received Response :=
  (lines bs).bind fun parts rest =>
    match parts with
    | [] => .malformed
    | first :: others =>
      match statusOf first, others.mapM headerOf with
      | some status, some headers =>
        if headers.length ≤ maxHeaders then .complete { status, headers } rest else .malformed
      | _, _ => .malformed

def bytesOf (n : Nat) (bs : List UInt8) : Received (List UInt8) :=
  if bs.length < n then .incomplete else .complete (bs.take n) (bs.drop n)

/-- The size of a chunk: hex digits up to a semicolon. -/
def chunkSize? (line : List Char) : Option Nat :=
  match (line.takeWhile (· ≠ ';')).takeWhile fun c => c ≠ ' ' with
  | [] => none
  | ds => radixValue? 16 ds

/-- A body in chunks, each after a line with its size. The fuel bounds the number of chunks. -/
def chunks : Nat → List UInt8 → Received (List UInt8)
  | 0, _ => .incomplete
  | fuel + 1, bs =>
    (line bs).bind fun size rest =>
      match chunkSize? (chars size) with
      | none => .malformed
      | some 0 => (lines rest).bind fun _ rest => .complete [] rest
      | some n =>
        (bytesOf n rest).bind fun chunk rest =>
          (line rest).bind fun gap rest =>
            if gap.isEmpty then
              (chunks fuel rest).bind fun others rest => .complete (chunk ++ others) rest
            else .malformed

inductive Framing where
  | empty
  | chunked
  | size (n : Nat)
  /-- The body ends with the connection. -/
  | connection
deriving DecidableEq, Repr

/-- The values of all headers of a name, in any mix of cases. -/
def Response.values (r : Response) (name : String) : List (List Char) :=
  (r.headers.filter fun h => h.1.toLower = name.toLower).map fun h => headerValue h.2

/-- The size that some values tell, each of which may hold several sizes: all of them are one
number. -/
def bodySize? (values : List (List Char)) : Option Nat :=
  match (values.flatMap (pieces ',')).map trim with
  | [] => none
  | first :: others =>
    let size := digitsValue first
    let isSize (ds : List Char) : Bool := isNumeral ds && digitsValue ds = size
    if isSize first && others.all isSize && size < UInt64.size - 2 then some size else none

def isChunked (codings : List (List Char)) : Bool :=
  match codings.getLast?.bind fun coding => (pieces ',' coding).getLast? with
  | some coding => (String.ofList (trim coding)).toLower = "chunked"
  | none => false

def bodiless : List UInt16 := [101, 204, 304]

/-- How the end of a response's body is told; `none` if its sizes are no number. -/
def Response.framing? (r : Response) : Option Framing :=
  let codings := r.values "Transfer-Encoding"
  let sizes := r.values "Content-Length"
  if bodiless.contains r.status then some .empty
  else if !codings.isEmpty then some (if isChunked codings then .chunked else .connection)
  else if sizes.isEmpty then some .connection
  else (bodySize? sizes).map .size

/-- A body, when the connection has or has not ended. -/
def body (ended : Bool) (framing : Framing) (bs : List UInt8) : Received (List UInt8) :=
  match framing with
  | .empty => .complete [] bs
  | .chunked => chunks (bs.length + 1) bs
  | .size n => bytesOf n bs
  | .connection => if ended then .complete bs [] else .incomplete

/-- Whether a response only says that another one follows. -/
def isProvisional (status : UInt16) : Bool := status < 200 && status ≠ 101

/-- A response, when the connection has or has not ended. Provisional responses are passed over; the
fuel bounds their number. A body that has no end is none. -/
def response (ended : Bool) : Nat → List UInt8 → Received Response
  | 0, _ => .malformed
  | fuel + 1, bs =>
    (head bs).bind fun r rest =>
      if isProvisional r.status then response ended fuel rest
      else match r.framing? with
        | none => .malformed
        | some framing =>
          match body ended framing rest with
          | .complete bytes rest => .complete { r with body := some bytes } rest
          | .malformed => .complete { r with body := none } []
          | .incomplete => if ended then .complete { r with body := none } [] else .incomplete

def Response.ofBytes (ended : Bool) (bs : List UInt8) : Received Response :=
  response ended (bs.length + 1) bs

end FleetRollout.Http
