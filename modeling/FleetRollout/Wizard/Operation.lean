import FleetRollout.Wizard.Counting
import FleetRollout.Wizard.Editing
import FleetRollout.Wizard.Opening
import FleetRollout.Wizard.Submission

/-! The operations of a wizard as data, so that a history of a wizard is a list of them. -/
namespace FleetRollout.Wizard

inductive Operation where
  | «open»
  | close
  | selectRelease (name : String)
  | selectTarget (target : Target)
  | setPhases (phases : Option (List Phase))
  | usePreviousPhases
  | setRetries (retries : UInt32)
  | setSaveRetriesDefault (save : Bool)
  | setForceInstall (force : Bool)
  | setDelta (delta : Bool)
  | setMaxDevices (limit : Option UInt64)
  | setUpdateControlMap (controlMap : Option Json)
  | setAccepted (total : UInt64)
  | setDevices (devices : DevicesById)
  | setGroups (groups : List GroupInfo)
  | loadSelectedDevices
  | completeCount (ticket : Ticket) (result : Except DeployError UInt64)
  | refreshCount
  | submit (confirmed : Bool) (clock : Readings)

inductive Reply where
  | done
  | failed (e : DeployError)
  /-- The ticket of a count that has to be fetched, if there is one. -/
  | ticket (pending : Option Ticket)
  /-- Whether a count was applied. -/
  | applied (yes : Bool)
  | submitted (outcome : Outcome)

namespace Reply

def ofUnit : Except DeployError Unit → Reply
  | .ok () => done
  | .error e => failed e

def ofTicket : Except DeployError (Option Ticket) → Reply
  | .ok pending => ticket pending
  | .error e => failed e

def ofOutcome : Except DeployError Outcome → Reply
  | .ok outcome => submitted outcome
  | .error e => failed e

end Reply

def perform (w : Wizard) : Operation → Program (Reply × Wizard)
  | .open => return (← w.open).map .ofUnit id
  | .close => return w.close.map .ofUnit id
  | .selectRelease name => return (← w.selectRelease name).map .ofUnit id
  | .selectTarget target => return (← w.selectTarget target).map .ofTicket id
  | .setPhases phases => return (w.setPhases phases).map .ofUnit id
  | .usePreviousPhases => return w.usePreviousPhases.map .ofUnit id
  | .setRetries retries => return (w.setRetries retries).map .ofUnit id
  | .setSaveRetriesDefault save => return (w.setSaveRetriesDefault save).map .ofUnit id
  | .setForceInstall force => return (w.setForceInstall force).map .ofUnit id
  | .setDelta delta => return (w.setDelta delta).map .ofUnit id
  | .setMaxDevices limit => return (w.setMaxDevices limit).map .ofUnit id
  | .setUpdateControlMap controlMap => return (w.setUpdateControlMap controlMap).map .ofUnit id
  | .setAccepted total => return (← w.setAccepted total).map .ticket id
  | .setDevices devices => return (← w.setDevices devices).map .ticket id
  | .setGroups groups => return (← w.setGroups groups).map .ticket id
  | .loadSelectedDevices => return (.done, ← w.loadSelectedDevices)
  | .completeCount ticket result => return (← w.completeCount ticket result).map .applied id
  | .refreshCount => return (← w.refreshCount).map .applied id
  | .submit confirmed clock => return (← w.submit confirmed clock).map .ofOutcome id

end FleetRollout.Wizard
