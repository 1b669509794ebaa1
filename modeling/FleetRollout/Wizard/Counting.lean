import FleetRollout.Wizard.Basic

/-! What is known of the fleet while a wizard runs: totals, devices and groups that are replaced,
devices that are loaded, and group counts that arrive. An arriving count is applied only if it is
the one waited for. -/
namespace FleetRollout.Wizard

/-- Replaces what is known of the fleet; tells the ticket of a count that has to be fetched. -/
def updateFleet (w : Wizard) (fleet : Fleet) : Program (Option Ticket × Wizard) := do
  let settled ← settle { w with fleet := fleet }
  return (settled.pending, settled)

def setAccepted (w : Wizard) (total : UInt64) : Program (Option Ticket × Wizard) :=
  w.updateFleet { w.fleet with accepted := total }

def setDevices (w : Wizard) (devices : DevicesById) : Program (Option Ticket × Wizard) :=
  w.updateFleet { w.fleet with devices := devices }

/-- Replaces the known groups; counts of groups that are gone are forgotten. -/
def setGroups (w : Wizard) (groups : List GroupInfo) : Program (Option Ticket × Wizard) :=
  let known := GroupInfo.byName groups
  w.updateFleet { w.fleet with groups := known, counts := w.fleet.counts.retain known.contains }

/-- Asks for each device in turn and adds those that are answered to the known ones. -/
def loadDevices : List DeviceId → DevicesById → Program DevicesById
  | [], known => return known
  | id :: rest, known => do
    match ← call (.device id) with
    | .ok (record : DeviceRecord) => loadDevices rest (known.insert record.id record.attributes)
    | .error e =>
      log .warn ("Unable to load device " ++ id ++ ": " ++ e.message)
      loadDevices rest known

def loadSelectedDevices (w : Wizard) : Program Wizard := do
  match w.selection.target with
  | .devices ids =>
    let missing := ids.filter fun id => !w.fleet.devices.contains id
    let known ← loadDevices missing w.fleet.devices
    settle { w with fleet := { w.fleet with devices := known } }
  | _ => return w

def isCurrent (w : Wizard) (ticket : Ticket) : Bool :=
  w.pending = some ticket && w.selection.target = .group ticket.group

/-- The wizard with a group's count known and nothing waited for; nothing is derived yet. -/
def withCount (w : Wizard) (group : String) (total : UInt64) : Wizard :=
  { w with
    pending := none
    fleet := { w.fleet with counts := w.fleet.counts.insert group total } }

/-- Takes the count that was fetched for a ticket, and tells whether it was applied. A count that
is not waited for any more is dropped; after a failure the ticket stays. -/
def completeCount (w : Wizard) (ticket : Ticket) (result : Except DeployError UInt64) :
    Program (Bool × Wizard) := do
  if w.isCurrent ticket then
    match result with
    | .ok total => return (true, ← settle (w.withCount ticket.group total))
    | .error e =>
      log .warn ("Unable to load device count of group " ++ ticket.group ++ ": " ++ e.message)
      return (false, w)
  else
    log .warn ("Discarding stale device count for group " ++ ticket.group ++ " (ticket "
      ++ toString ticket.number ++ ")")
    return (false, w)

/-- Fetches the count that is waited for, if there is one, and tells whether it was applied. -/
def refreshCount (w : Wizard) : Program (Bool × Wizard) := do
  match w.pending with
  | none => return (false, w)
  | some ticket =>
    let answer : Except DeployError GroupPage ← call (.groupDevices ticket.group 1)
    w.completeCount ticket (answer.map (·.total))

/-- The wizard after the count that is waited for was fetched. -/
def refreshed (w : Wizard) : Program Wizard := do
  let (_, refreshed) ← w.refreshCount
  return refreshed

end FleetRollout.Wizard
