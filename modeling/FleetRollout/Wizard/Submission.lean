import FleetRollout.Wizard.Basic

/-! Submitting a selection. One submission runs at a time; a rejected one leaves the wizard open
and its selection as it was. -/
namespace FleetRollout.Wizard

inductive Outcome where
  | created (deployment : CreatedDeployment)
  /-- Nothing was sent; the submission has to be confirmed. -/
  | needsConfirmation
  /-- Nothing was sent; another submission is under way. -/
  | alreadyInFlight
deriving DecidableEq, Repr

def Outcome.label : Outcome → String
  | created deployment =>
    let id := match deployment.id with
      | some id => "Some(" ++ Text.quoted id ++ ")"
      | none => "None"
    "Created(CreatedDeployment \x7b id: " ++ id ++ " \x7d)"
  | needsConfirmation => "NeedsConfirmation"
  | alreadyInFlight => "AlreadyInFlight"

/-- The clock as a submission reads it: to check the selection, and later to make the request. -/
structure Readings where
  check : Instant
  request : Instant
deriving DecidableEq, Repr, Inhabited

def Readings.once (now : Instant) : Readings := ⟨now, now⟩

@[simp] theorem Readings.once_check (now : Instant) : (once now).check = now := rfl

@[simp] theorem Readings.once_request (now : Instant) : (once now).request = now := rfl

/-- The request to send; nothing if a confirmation is missing. -/
def submission (w : Wizard) (confirmed : Bool) (clock : Readings) :
    Except DeployError (Option DeploymentRequest) := do
  w.ensureEditable
  if w.awaitsCount then throw (.validation .countStillLoading)
  if !w.selection.isSubmittable clock.check then throw (.validation .selectionIncomplete)
  if w.options.needsConfirmation && !confirmed then return none
  return some (← w.preview clock.request)

/-- Moves the lifecycle on; a move that is refused changes nothing. -/
def processing (w : Wizard) (event : Event) (outcome : Except DeployError Outcome) :
    Except DeployError Outcome × Wizard :=
  match w.lifecycle.process event with
  | .ok lifecycle => (outcome, { w with lifecycle := lifecycle })
  | .error e => (.error e, w)

def create (w : Wizard) (request : DeploymentRequest) :
    Program (Except DeployError Outcome × Wizard) := do
  match ← call (.createDeployment request) with
  | .ok created =>
    let (result, w') := w.processing .submitSucceeded (.ok (.created created))
    log .info ("Deployment " ++ request.name ++ " submitted")
    return (result, w')
  | .error e =>
    log .warn ("Deployment " ++ request.name ++ " rejected: " ++ e.message)
    return w.processing (.submitFailed e.message) (.error e)

/-- Reports the step of the tour unless it is over, and sends a request. -/
def send (w : Wizard) (request : DeploymentRequest) :
    Program (Except DeployError Outcome × Wizard) := do
  if !(← tourIsComplete) then advance .releaseToDevices
  match w.lifecycle.process .submit with
  | .error e => return (.error e, w)
  | .ok lifecycle => create { w with lifecycle := lifecycle } request

/-- Submits the selection with the token of the guard in hand. -/
def submitHeld (w : Wizard) (confirmed : Bool) (clock : Readings) :
    Program (Except DeployError Outcome × Wizard) := do
  match w.submission confirmed clock with
  | .error e => return (.error e, w)
  | .ok none => return (.ok .needsConfirmation, w)
  | .ok (some request) => w.send request

/-- Submits the selection. The token of the guard is given up whatever comes of it. -/
def submit (w : Wizard) (confirmed : Bool) (clock : Readings) :
    Program (Except DeployError Outcome × Wizard) := do
  match w.guard.acquire? with
  | none =>
    log .debug "Submission already in flight, ignoring"
    return (.ok .alreadyInFlight, w)
  | some held =>
    let (result, w') ← submitHeld { w with guard := held } confirmed clock
    return (result, { w' with guard := w'.guard.release })

end FleetRollout.Wizard
