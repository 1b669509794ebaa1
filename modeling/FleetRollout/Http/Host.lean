import FleetRollout.Error
import FleetRollout.Http.Domain
import FleetRollout.Http.Escaping
import FleetRollout.Text.Numeral
import FleetRollout.Text.Split

/-! Hosts of URLs as they are written: domains in ASCII, and the addresses of both versions of the
internet protocol in their canonical forms. -/
namespace FleetRollout.Http

open Text

/-- A part of a version 4 address: decimal, octal after `0`, hex after `0x`. -/
def ipv4Part? : List Char → Option Nat
  | [] => none
  | '0' :: 'x' :: ds | '0' :: 'X' :: ds => radixValue? 16 ds
  | ['0'] => some 0
  | '0' :: ds => radixValue? 8 ds
  | ds => radixValue? 10 ds

/-- The parts of a domain; one dot at the end counts for nothing. -/
def domainParts (cs : List Char) : List (List Char) :=
  match (pieces '.' cs).reverse with
  | [] :: rest => rest.reverse
  | parts => parts.reverse

/-- Whether the last part is a number, so that the domain has to be an address. -/
def endsInNumber (cs : List Char) : Bool :=
  match (domainParts cs).getLast? with
  | some last => (!last.isEmpty && last.all Char.isDigit) || (ipv4Part? last).isSome
  | none => false

/-- The four bytes of a version 4 address from the values of its parts: every part but the last is
one byte, the last one fills what is left. -/
def ipv4Number? (parts : List Nat) : Option Nat :=
  match parts.reverse with
  | [] => none
  | last :: leading =>
    let left := 4 - leading.length
    if leading.length ≤ 3 && leading.all (· < 256) && last < Nat.pow 256 left then
      some (leading.reverse.foldl (fun n p => 256 * n + p) 0 * Nat.pow 256 left + last)
    else none

def ipv4Text (n : Nat) : List Char :=
  let byte (i : Nat) : List Char := digits (n / Nat.pow 256 i % 256)
  byte 3 ++ '.' :: byte 2 ++ '.' :: byte 1 ++ '.' :: byte 0

/-- Reads a version 4 address and writes it in its canonical form. -/
def ipv4 (cs : List Char) : Except UrlFault (List Char) :=
  match ((domainParts cs).mapM ipv4Part?).bind ipv4Number? with
  | some n => .ok (ipv4Text n)
  | none => .error .invalidIpv4

/-- One of four decimal bytes at the end of a version 6 address, without leading zeros. -/
def decimalByte? (ds : List Char) : Option Nat :=
  if isNumeral ds && (ds.length = 1 || ds.head? ≠ some '0') && digitsValue ds < 256 then
    some (digitsValue ds)
  else none

/-- A piece of a version 6 address; the last one may be a version 4 address, which counts for
two. -/
def ipv6Piece? (isLast : Bool) (cs : List Char) : Option (List Nat) :=
  if isLast && cs.contains '.' then
    match (pieces '.' cs).mapM decimalByte? with
    | some [a, b, c, d] => some [256 * a + b, 256 * c + d]
    | _ => none
  else if !cs.isEmpty && cs.length ≤ 4 then (radixValue? 16 cs).map ([·])
  else none

def ipv6Pieces? (mayEnd : Bool) : List (List Char) → Option (List Nat)
  | [] => some []
  | p :: rest => do return (← ipv6Piece? (mayEnd && rest.isEmpty) p) ++ (← ipv6Pieces? mayEnd rest)

/-- The pieces of a text, of which an empty one has none. -/
def ipv6Side? (mayEnd : Bool) (cs : List Char) : Option (List Nat) :=
  if cs.isEmpty then some [] else ipv6Pieces? mayEnd (pieces ':' cs)

def cutDoubleColon : List Char → Option (List Char × List Char)
  | ':' :: ':' :: rest => some ([], rest)
  | [] => none
  | c :: rest => (cutDoubleColon rest).map fun (before, after) => (c :: before, after)

/-- The eight pieces of a version 6 address; two colons in a row stand for one zero or more. -/
def ipv6Address? (cs : List Char) : Option (List Nat) :=
  match cutDoubleColon cs with
  | none => (ipv6Side? true cs).filter fun ps => ps.length = 8
  | some (before, after) => do
    let front ← ipv6Side? false before
    let back ← ipv6Side? true after
    let count := front.length + back.length
    if count ≤ 7 then some (front ++ List.replicate (8 - count) 0 ++ back) else none

def zeroRun (ps : List Nat) : Nat := (ps.takeWhile (· = 0)).length

def longestZeroRun : Nat → List Nat → Nat × Nat
  | start, [] => (start, 0)
  | start, p :: rest =>
    let here := zeroRun (p :: rest)
    let later := longestZeroRun (start + 1) rest
    if later.2 ≤ here then (start, here) else later

def hexPieces (ps : List Nat) : List Char := [':'].intercalate (ps.map (Nat.toDigits 16))

/-- The canonical form of a version 6 address: the longest run of at least two zeros is left out. -/
def ipv6Text (ps : List Nat) : List Char :=
  let (start, length) := longestZeroRun 0 ps
  if length < 2 then hexPieces ps
  else hexPieces (ps.take start) ++ [':', ':'] ++ hexPieces (ps.drop (start + length))

/-- A version 6 address in brackets, which are the first and the last character. -/
def bracketed (cs : List Char) : Except UrlFault (List Char) :=
  match cs.getLast?, ipv6Address? cs.dropLast with
  | some ']', some ps => .ok ('[' :: ipv6Text ps ++ [']'])
  | _, _ => .error .invalidIpv6

def isForbiddenPlain (c : Char) : Bool :=
  ['\x00', '\t', '\n', '\r', ' ', '#', '/', ':', '<', '>', '?', '@', '[', '\\', ']', '^', '|'].contains c

/-- Reads the host of a web scheme: a domain may be escaped and in any case, and an address may be
written in any form. -/
def host : List Char → Except UrlFault (List Char)
  | [] => .error .emptyHost
  | '[' :: rest => bracketed rest
  | cs =>
    match (ofUtf8? (percentDecode (utf8 cs))).bind asciiDomain? with
    | none => .error .invalidDomain
    | some [] => .error .emptyHost
    | some domain => if endsInNumber domain then ipv4 domain else .ok domain

/-- Reads the host of another scheme, which is kept as it is. -/
def plainHost : List Char → Except UrlFault (List Char)
  | '[' :: rest => bracketed rest
  | cs => if cs.any isForbiddenPlain then .error .invalidDomainCharacter else .ok (escape [] cs)

end FleetRollout.Http
