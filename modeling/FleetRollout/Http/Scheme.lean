/-! Schemes of URLs, which decide how the rest of a URL is read. -/
namespace FleetRollout.Http

/-- The schemes of the web, each with the port that goes without saying. -/
def webPorts : List (String × Nat) :=
  [("http", 80), ("https", 443), ("ws", 80), ("wss", 443), ("ftp", 21)]

/-- How the rest of a URL is read, by its scheme. -/
inductive SchemeKind where
  | web (port : Nat)
  | file
  | other
deriving DecidableEq, Repr

namespace SchemeKind

def ofScheme (scheme : List Char) : SchemeKind :=
  match webPorts.lookup (String.ofList scheme) with
  | some port => .web port
  | none => if scheme = "file".toList then .file else .other

/-- Whether a backslash counts as a slash, and a path is never empty. -/
def isSpecial : SchemeKind → Bool
  | web _ | file => true
  | other => false

end SchemeKind

/-- Whether a character is a slash, for a scheme that is special or not. -/
def isSlash (special : Bool) (c : Char) : Bool := c = '/' || (special && c = '\\')

def endsPath (c : Char) : Bool := c = '?' || c = '#'

/-- Whether a character is passed over wherever it stands in a URL. -/
def isPassedOver (c : Char) : Bool := c = '\t' || c = '\n' || c = '\r'

def kept (cs : List Char) : List Char := cs.filter fun c => !isPassedOver c

end FleetRollout.Http
