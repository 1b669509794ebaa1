import FleetRollout.Deployment.Request
import FleetRollout.Error
import FleetRollout.Fleet.Inventory

/-! The calls that a wizard makes to the management API, each with the type of its answer. -/
namespace FleetRollout

/-- A page of a group's devices, and the number of devices on all pages. -/
structure GroupPage where
  total : UInt64
  devices : List DeviceId
deriving DecidableEq, Repr

structure ReleaseQuery where
  page : UInt32 := 1
  perPage : UInt32 := 100
  searchTerm : Option String := none
deriving DecidableEq, Repr

structure CreatedDeployment where
  /-- The id, if the API tells it. -/
  id : Option String
deriving DecidableEq, Repr

inductive Call where
  /-- The number of devices of a group, or of all accepted devices. -/
  | deviceCount (group : Option String)
  /-- The first page of a group's devices. -/
  | groupDevices (group : String) (perPage : UInt32)
  /-- The names of releases. -/
  | releases (query : ReleaseQuery)
  /-- The names of all groups. -/
  | groups
  /-- All saved filters. -/
  | savedFilters
  /-- A device with its attributes. -/
  | device (id : DeviceId)
  /-- The configuration of the deployments service. -/
  | deploymentsConfig
  /-- The creation of a deployment. -/
  | createDeployment (request : DeploymentRequest)

/-- What a call answers when it succeeds. -/
@[reducible] def Call.Answer : Call → Type
  | deviceCount _ => UInt64
  | groupDevices _ _ => GroupPage
  | releases _ => List String
  | groups => List String
  | savedFilters => List SavedFilter
  | device _ => DeviceRecord
  | deploymentsConfig => DeploymentsConfig
  | createDeployment _ => CreatedDeployment

end FleetRollout
