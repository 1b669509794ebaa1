/-! The guard that lets one submission through at a time. Whoever passes it holds a token; giving
the token up clears the guard, whoever has passed since. -/
namespace FleetRollout.Wizard

/-- Whether a submission is under way. -/
structure Guard where
  inFlight : Bool := false
deriving DecidableEq, Repr, Inhabited

namespace Guard

/-- The guard after somebody passes, if it lets anyone pass. -/
def acquire? (g : Guard) : Option Guard := if g.inFlight then none else some ⟨true⟩

def release (_ : Guard) : Guard := ⟨false⟩

/-- The guard after it is cleared by force; tokens that are held stay with their holders. -/
def reset (_ : Guard) : Guard := ⟨false⟩

end Guard
end FleetRollout.Wizard
