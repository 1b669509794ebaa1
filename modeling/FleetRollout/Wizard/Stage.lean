import FleetRollout.Text.Quoted

/-! The stages of a deployment wizard and the events that move it from one to another, with the
names that messages give them. -/
namespace FleetRollout.Wizard

inductive Stage where
  /-- Not shown; no selection is held. -/
  | closed
  /-- The selection is being made. -/
  | «open»
  /-- A creation request is outstanding. -/
  | submitting
  /-- The deployment was created. -/
  | submitted
deriving DecidableEq, Repr, Inhabited

inductive Event where
  | «open»
  | submit
  | submitSucceeded
  | submitFailed (reason : String)
  | close
deriving DecidableEq, Repr

def Stage.name : Stage → String
  | closed => "closed"
  | .open => "open"
  | submitting => "submitting"
  | submitted => "submitted"

def Stage.label : Stage → String
  | closed => "Closed"
  | .open => "Open"
  | submitting => "Submitting"
  | submitted => "Submitted"

def Event.label : Event → String
  | .open => "Open"
  | submit => "Submit"
  | submitSucceeded => "SubmitSucceeded"
  | submitFailed reason => "SubmitFailed(" ++ Text.quoted reason ++ ")"
  | close => "Close"

end FleetRollout.Wizard
