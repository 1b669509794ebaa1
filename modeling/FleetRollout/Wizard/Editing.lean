import FleetRollout.Wizard.Basic

/-! Changes of the selection. Every one of them is refused unless the wizard is open, and some are
refused where the tenant lacks a capability. All of them check before they change anything. -/
namespace FleetRollout.Wizard

def checkEditable : Edit Unit := do
  let w ← get
  w.ensureEditable

/-- Refuses to go on with a wizard that meets a condition. -/
def refuseIf (condition : Wizard → Bool) (e : DeployError) : Edit Unit := do
  if condition (← get) then throw e

def changeSelection (change : Selection → Selection) : Edit Unit :=
  modify fun w => { w with selection := change w.selection }

def choose (w : Wizard) (change : Selection → Selection) : Except DeployError Unit × Wizard :=
  w.edit do
    checkEditable
    changeSelection change

/-- Picks a release, if that release may be picked. -/
def pickRelease (w : Wizard) (name : String) : Except DeployError Unit × Wizard :=
  w.edit do
    checkEditable
    refuseIf (fun w => !w.releases.isEmpty && !w.releases.contains name)
      (.notFound (.release name))
    changeSelection fun s => { s with release := some ⟨name⟩ }

def selectRelease (w : Wizard) (name : String) : Program (Except DeployError Unit × Wizard) := do
  match w.pickRelease name with
  | (.error e, w) => return (.error e, w)
  | (.ok (), w) =>
    advance .artifactSelection
    return (.ok (), w)

/-- Picks a target, if that target may be picked; nothing is derived yet. -/
def pickTarget (w : Wizard) (target : Target) : Except DeployError Unit × Wizard :=
  w.edit do
    checkEditable
    refuseIf (fun w => target.mode = some .savedFilter && !w.options.hasFullFiltering)
      (.validation .filtersUnavailable)
    changeSelection (·.setTarget target)

/-- Picks the target. The ticket is that of a group count that has to be fetched. -/
def selectTarget (w : Wizard) (target : Target) :
    Program (Except DeployError (Option Ticket) × Wizard) := do
  match w.pickTarget target with
  | (.error e, w) => return (.error e, w)
  | (.ok (), w) =>
    advance .groupSelection
    if target = .allDevices then advance .allDevicesSelection
    let settled ← settle w
    return (.ok settled.pending, settled)

def setPhases (w : Wizard) (phases : Option (List Phase)) : Except DeployError Unit × Wizard :=
  w.edit do
    checkEditable
    refuseIf (fun w => (phases.any fun ps => !ps.isEmpty) && !w.options.canSchedule)
      (.validation .phasesUnavailable)
    changeSelection fun s => { s with phases := phases }

def usePreviousPhases (w : Wizard) : Except DeployError Unit × Wizard :=
  match w.options.previousPhases.filter fun ps => !ps.isEmpty with
  | none => (.error (.notFound .previousPhases), w)
  | some phases => w.setPhases (some phases)

def setRetries (w : Wizard) (retries : UInt32) : Except DeployError Unit × Wizard :=
  w.choose fun s => { s with retries := retries }

def setSaveRetriesDefault (w : Wizard) (save : Bool) : Except DeployError Unit × Wizard :=
  w.choose fun s => { s with saveRetriesDefault := save }

def setForceInstall (w : Wizard) (force : Bool) : Except DeployError Unit × Wizard :=
  w.choose fun s => { s with forceInstall := force }

def setDelta (w : Wizard) (delta : Bool) : Except DeployError Unit × Wizard :=
  w.choose fun s => { s with delta := delta }

def setMaxDevices (w : Wizard) (limit : Option UInt64) : Except DeployError Unit × Wizard :=
  w.choose fun s => { s with maxDevices := limit }

def setUpdateControlMap (w : Wizard) (controlMap : Option Json) :
    Except DeployError Unit × Wizard :=
  w.choose fun s => { s with updateControlMap := controlMap }

end FleetRollout.Wizard
