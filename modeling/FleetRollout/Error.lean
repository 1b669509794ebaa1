import FleetRollout.Wizard.Stage

/-! What can go wrong, by cause. Each kind of error has one wording. -/
namespace FleetRollout

/-- Why a file operation failed. -/
inductive FileFault where
  | notFound
  | alreadyExists
  | notADirectory
  | isADirectory
  | other (text : String)
deriving DecidableEq, Repr

def FileFault.message : FileFault → String
  | notFound => "No such file or directory (os error 2)"
  | alreadyExists => "File exists (os error 17)"
  | notADirectory => "Not a directory (os error 20)"
  | isADirectory => "Is a directory (os error 21)"
  | other text => text

/-- Why an exchange with the management API came to nothing. -/
inductive HttpFault where
  /-- No connection, or it broke. -/
  | unreachable
  /-- What came back is no response. -/
  | garbled
  /-- The token cannot stand in a header, or the URL is too long. -/
  | unsendable
  /-- The body of a successful response has another form than expected. -/
  | unreadableBody
  /-- Redirections led on and on. -/
  | redirectedTooOften
  /-- The URL, perhaps that of a redirection, is none of the web. -/
  | foreignScheme
deriving DecidableEq, Repr

def HttpFault.message : HttpFault → String
  | unreachable | garbled => "error sending request"
  | unsendable => "failed to parse header value"
  | unreadableBody => "error decoding response body"
  | redirectedTooOften => "error following redirect"
  | foreignScheme => "URL scheme is not allowed"

inductive UrlFault where
  | relativeWithoutBase
  | emptyHost
  | invalidPort
  | invalidDomain
  | invalidDomainCharacter
  | invalidIpv4
  | invalidIpv6
deriving DecidableEq, Repr

def UrlFault.message : UrlFault → String
  | relativeWithoutBase => "relative URL without a base"
  | emptyHost => "empty host"
  | invalidPort => "invalid port number"
  | invalidDomain => "invalid international domain name"
  | invalidDomainCharacter => "invalid domain character"
  | invalidIpv4 => "invalid IPv4 address"
  | invalidIpv6 => "invalid IPv6 address"

inductive ConfigIssue where
  | noToken
  | notABase (url : String)
  | other (text : String)
deriving DecidableEq, Repr

def tokenVariable : String := "FLEETDEPLOY_TOKEN"

def ConfigIssue.message : ConfigIssue → String
  | noToken => "no API token: set backend.token or " ++ tokenVariable
  | notABase url => "backend URL cannot be used as a base: " ++ url
  | other text => text

/-- What makes a selection, a pattern or an argument list unacceptable. -/
inductive ValidationIssue where
  | noRelease
  | noTarget
  | startOutOfRange
  | emptyPattern
  | remainderBeforeEnd (pattern : String)
  | sizeNotANumber (size : String)
  | sizeOutOfRange (percent : UInt32)
  | invalidDelay (delay : String)
  | delayTooLong (delay : String)
  | releaseRequired
  | oneTargetRequired
  | numberExpected (key value : String)
  | filtersUnavailable
  | phasesUnavailable
  | countStillLoading
  | selectionIncomplete
  | other (text : String)
deriving DecidableEq, Repr

def longestDelayDays : Nat := 365

def ValidationIssue.message : ValidationIssue → String
  | noRelease => "no release selected"
  | noTarget => "no deployment target selected"
  | startOutOfRange => "phase start time out of range"
  | emptyPattern => "empty phase pattern"
  | remainderBeforeEnd pattern => "'*' is only allowed on the final phase: " ++ pattern
  | sizeNotANumber size => "invalid phase size: " ++ size
  | sizeOutOfRange percent => "phase size out of range: " ++ toString percent.toNat
  | invalidDelay delay => "invalid phase delay: " ++ delay
  | delayTooLong delay =>
    "phase delay longer than " ++ toString longestDelayDays ++ " days: " ++ delay
  | releaseRequired => "--release is required"
  | oneTargetRequired =>
    "choose exactly one of --devices, --group, --all-devices, --filter-id"
  | numberExpected key value => "--" ++ key ++ " expects a number, got " ++ value
  | filtersUnavailable => "saved filters are not available for this tenant"
  | phasesUnavailable => "phased rollouts are not available for this tenant"
  | countStillLoading => "device count of the selected group is still loading"
  | selectionIncomplete => "selection is not complete"
  | other text => text

inductive TransitionIssue where
  | notAllowed (stage : Wizard.Stage) (event : Wizard.Event)
  | notEditable (stage : Wizard.Stage)
  | other (text : String)
deriving DecidableEq, Repr

def TransitionIssue.message : TransitionIssue → String
  | notAllowed stage event => stage.label ++ " -> " ++ event.label
  | notEditable stage => "selection is not editable while " ++ stage.label
  | other text => text

inductive Missing where
  | release (name : String)
  | previousPhases
  | other (text : String)
deriving DecidableEq, Repr

def Missing.message : Missing → String
  | release name => "release " ++ name
  | previousPhases => "no previous phases saved"
  | other text => text

inductive DeployError where
  | io (fault : FileFault)
  /-- A text is not JSON, or not of the expected form. -/
  | json
  | http (fault : HttpFault)
  | url (fault : UrlFault)
  /-- The management API answered with a status other than success. -/
  | rejected (status : UInt16) (body : String)
  | config (issue : ConfigIssue)
  | validation (issue : ValidationIssue)
  | transition (issue : TransitionIssue)
  | notFound (what : Missing)
  | internal (text : String)
deriving DecidableEq, Repr

namespace DeployError

def message : DeployError → String
  | io fault => "IO error: " ++ fault.message
  | json => "JSON error: " ++ "not a value of the expected form"
  | http fault => "HTTP error: " ++ fault.message
  | url fault => "URL error: " ++ fault.message
  | rejected status body =>
    "Request rejected: " ++ toString status.toNat ++ " - " ++ body
  | config issue => "Configuration error: " ++ issue.message
  | validation issue => "Validation error: " ++ issue.message
  | transition issue => "Invalid wizard transition: " ++ issue.message
  | notFound what => "Not found: " ++ what.message
  | internal text => "Internal error: " ++ text

/-- The message of the cause that an error wraps, if it wraps one. -/
def cause? : DeployError → Option String
  | io fault => some fault.message
  | json => some "not a value of the expected form"
  | http fault => some fault.message
  | url fault => some fault.message
  | _ => none

def chain (e : DeployError) : String :=
  match e.cause? with
  | some cause => e.message ++ ": " ++ cause
  | none => e.message

end DeployError

/-- Two steps succeed if the first one does, and the second one with its result. -/
theorem bind_eq_ok {ε α β : Type} {x : Except ε α} {next : α → Except ε β} {b : β} :
    (x >>= next) = .ok b ↔ ∃ a, x = .ok a ∧ next a = .ok b := by
  cases x <;> simp [bind, Except.bind]

end FleetRollout
