import FleetRollout.Binary64
import FleetRollout.Dict

/-! JSON values. Integers of 64 bits are exact, all other numbers are binary64; the members of an
object keep the order they were put in. -/
namespace FleetRollout

inductive Json where
  | null
  | bool (b : Bool)
  | int (n : Int)
  | float (x : Binary64)
  | str (s : String)
  | arr (items : List Json)
  | obj (members : List (String × Json))
deriving Repr, Inhabited

namespace Json

/-- Least and greatest integer that is kept exactly. -/
def leastInt : Int := -(UInt64.size / 2 : Nat)
def greatestInt : Int := UInt64.size - 1

instance : Coe String Json := ⟨.str⟩
instance : Coe Bool Json := ⟨.bool⟩

def nat (n : Nat) : Json := .int n

def strings (ss : List String) : Json := .arr (ss.map .str)

/-- A value that may be absent, written as `null` then. -/
def orNull (write : α → Json) : Option α → Json
  | none => .null
  | some a => write a

/-- The member for a value that may be absent; there is none then. -/
def present (name : String) (write : α → Json) : Option α → List (String × Json)
  | none => []
  | some a => [(name, write a)]

end Json
end FleetRollout
