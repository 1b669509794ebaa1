import FleetRollout.Backend
import FleetRollout.Dialogue
import FleetRollout.Selection.Request
import FleetRollout.Selection.Resolve
import FleetRollout.Wizard.Guard
import FleetRollout.Wizard.Lifecycle
import FleetRollout.Wizard.Onboarding

/-! A deployment wizard: a selection on its way from opening to submission, what is known of the
fleet, and the device count that is waited for. Its operations are programs that call the
management API, report steps of the tour and write to the log. -/
namespace FleetRollout

namespace Wizard

structure Options where
  /-- Whether retries may be asked for. -/
  canRetry : Bool := false
  /-- Whether a rollout may have phases. -/
  canSchedule : Bool := false
  /-- Whether saved filters, and groups that are backed by them, may be targets. -/
  hasFullFiltering : Bool := false
  /-- Whether a submission has to be confirmed. -/
  needsConfirmation : Bool := false
  /-- The retries of a new selection. -/
  defaultRetries : UInt32 := 0
  /-- The phases of the last deployment in phases. -/
  previousPhases : Option (List Phase) := none
  /-- The number of group counts that are kept. -/
  groupCountCapacity : UInt64 := .ofNat GroupCounts.usualCapacity
  releaseQuery : ReleaseQuery := {}
deriving DecidableEq, Repr, Inhabited

/-- Stands for one request of a group's device count. -/
structure Ticket where
  group : String
  /-- The place among all tickets of the wizard. -/
  number : Nat
deriving DecidableEq, Repr

inductive Question where
  | call (c : Call)
  | log (entry : LogEntry)
  | advance (step : OnboardingStep)
  /-- Whether the tour is over. -/
  | tourIsComplete

/-- A failed call is answered with its error. -/
@[reducible] def Question.Answer : Question → Type
  | call c => Except DeployError c.Answer
  | log _ => Unit
  | advance _ => Unit
  | tourIsComplete => Bool

@[reducible] def interface : Interface := ⟨Question, Question.Answer⟩

abbrev Program (α : Type) := Dialogue interface α

def call (c : Call) : Program (Except DeployError c.Answer) := .query (I := interface) (.call c)

def log (level : LogLevel) (message : String) : Program Unit :=
  .query (I := interface) (.log ⟨level, message⟩)

def logAll : List LogEntry → Program Unit
  | [] => .done ()
  | e :: rest => do log e.level e.message; logAll rest

def advance (step : OnboardingStep) : Program Unit := .query (I := interface) (.advance step)

def tourIsComplete : Program Bool := .query (I := interface) .tourIsComplete

end Wizard

structure Wizard where
  options : Wizard.Options
  lifecycle : Wizard.Lifecycle := {}
  guard : Wizard.Guard := {}
  selection : Selection := {}
  /-- The releases to pick from; any may be picked if there are none. -/
  releases : List String := []
  fleet : Fleet
  /-- Whether the deployments service generates delta artifacts. -/
  hasDelta : Bool := false
  /-- The ticket of the device count that is waited for. -/
  pending : Option Wizard.Ticket := none
  /-- The number of tickets issued so far. -/
  issued : Nat := 0

namespace Wizard

/-- A closed wizard that knows nothing yet. -/
def new (options : Options) : Wizard :=
  { options := options
    fleet := { counts := .ofCapacity options.groupCountCapacity.toNat } }

instance : Inhabited Wizard := ⟨new {}⟩

def awaits (w : Wizard) (group : String) : Bool := w.pending.any fun t => t.group = group

/-- The wizard with derived fields and the pending ticket brought in line with target and fleet. A
count that is needed and not waited for yet gets a new ticket. -/
def settled (w : Wizard) : Wizard :=
  match w.selection.resolve w.fleet with
  | (selection, .resolved) => { w with selection := selection, pending := none }
  | (selection, .needsCount group) =>
    if w.awaits group then { w with selection := selection }
    else
      { w with
        selection := selection
        pending := some ⟨group, w.issued + 1⟩
        issued := w.issued + 1 }

def settlingLog (w : Wizard) : List LogEntry :=
  let resolution := (w.selection.resolve w.fleet).2
  let issuing := match resolution with
    | .resolved => []
    | .needsCount group =>
      if w.awaits group then []
      else
        [⟨.debug, "Issuing count ticket " ++ toString (w.issued + 1) ++ " for group " ++ group⟩]
  w.selection.resolutionLog resolution ++ issuing

def settle (w : Wizard) : Program Wizard := do
  logAll w.settlingLog
  return w.settled

/-- Refuses a change of the selection unless the wizard is open. -/
def ensureEditable (w : Wizard) : Except DeployError Unit :=
  if w.lifecycle.isEditable then .ok ()
  else .error (.transition (.notEditable w.lifecycle.stage))

/-- A change of a wizard that may be refused. What it changes before it is refused stays changed. -/
abbrev Edit (α : Type) := ExceptT DeployError (StateM Wizard) α

/-- What a change gives back, and the wizard after it. -/
def edit (w : Wizard) (change : Edit α) : Except DeployError α × Wizard := change.run.run w

def flags (w : Wizard) : RequestFlags := ⟨w.options.canRetry, w.hasDelta⟩

def preview (w : Wizard) (now : Instant) : Except DeployError DeploymentRequest :=
  w.selection.request w.flags now

/-- Phases cannot be checked while the device count is waited for. -/
def awaitsCount (w : Wizard) : Bool := w.pending.isSome && w.selection.isPhased

/-- Whether submitting is offered; there is no answer where the program stops at the phases. -/
def isSubmittable? (overflow : Rollout.Overflow) (w : Wizard) (now : Instant) : Option Bool :=
  if w.lifecycle.isEditable && !w.guard.inFlight && !w.awaitsCount then
    w.selection.isSubmittable? overflow now
  else some false

/-- The answer of the shipped program. -/
def isSubmittable (w : Wizard) (now : Instant) : Bool := w.isSubmittable? .wraps now = some true

def confirmationMessage (w : Wizard) : String :=
  let release := match w.selection.release with
    | some release => release.name
    | none => "<no release>"
  let count := w.selection.resolvedDeviceCount
  let noun := if count = 1 then "device" else "devices"
  "This will deploy " ++ release ++ " to " ++ toString count.toNat ++ " " ++ noun
    ++ ". Are you sure?"

end Wizard
end FleetRollout
