import FleetRollout.Error

/-! The lifecycle of a wizard: it opens, may try to submit any number of times, and closes. An
event that does not fit the stage is refused. -/
namespace FleetRollout.Wizard

structure Lifecycle where
  stage : Stage := .closed
  /-- Why the last submission was rejected. -/
  lastError : Option String := none
  /-- The submissions that were tried since the wizard was opened. -/
  attempts : UInt32 := 0
deriving DecidableEq, Repr, Inhabited

namespace Lifecycle

def process (l : Lifecycle) (event : Event) : Except DeployError Lifecycle :=
  match l.stage, event with
  | .closed, .open | .open, .open | .submitted, .open => .ok { stage := .open }
  | .open, .submit => .ok { l with stage := .submitting, attempts := l.attempts + 1 }
  | .submitting, .submitSucceeded => .ok { l with stage := .submitted, lastError := none }
  | .submitting, .submitFailed reason => .ok { l with stage := .open, lastError := some reason }
  | .open, .close | .submitted, .close => .ok { l with stage := .closed }
  | stage, event => .error (.transition (.notAllowed stage event))

def isEditable (l : Lifecycle) : Bool := l.stage = .open

end Lifecycle
end FleetRollout.Wizard
