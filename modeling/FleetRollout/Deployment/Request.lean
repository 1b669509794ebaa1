import FleetRollout.Rollout.Phase

/-! The request that creates a deployment. Fields that are absent are not written. -/
namespace FleetRollout

open Json (Reader Record)

structure RequestPhase where
  /-- The percentage of the devices; absent on the last phase. -/
  batchSize : Option UInt32 := none
  /-- When the phase starts; absent for a start at once. -/
  start : Option Instant := none
deriving DecidableEq, Repr

namespace RequestPhase

def toJson (p : RequestPhase) : Json :=
  .obj (Json.present "batch_size" (fun n => .nat n.toNat) p.batchSize ++
    Json.present "start_ts" Instant.toJson p.start)

def read : Reader RequestPhase := fun level s => do
  let r ← Record.read ["batch_size", "start_ts"] level s
  return { batchSize := ← r.optional "batch_size" .uint32
           start := ← r.optional "start_ts" Instant.read }

end RequestPhase

/-- A creation request. Of `devices`, `group`, `allDevices` and `filterId` one is set. -/
structure DeploymentRequest where
  name : String
  artifactName : String
  devices : Option (List String) := none
  group : Option String := none
  allDevices : Option Bool := none
  filterId : Option String := none
  phases : Option (List RequestPhase) := none
  retries : Option UInt32 := none
  maxDevices : Option UInt64 := none
  forceInstallation : Bool := false
  autogenerateDelta : Bool := false
  updateControlMap : Option Json := none

namespace DeploymentRequest

def toJson (r : DeploymentRequest) : Json :=
  .obj ([("name", .str r.name), ("artifact_name", .str r.artifactName)] ++
    Json.present "devices" Json.strings r.devices ++
    Json.present "group" .str r.group ++
    Json.present "all_devices" .bool r.allDevices ++
    Json.present "filter_id" .str r.filterId ++
    Json.present "phases" (fun ps => .arr (ps.map RequestPhase.toJson)) r.phases ++
    Json.present "retries" (fun n => .nat n.toNat) r.retries ++
    Json.present "max_devices" (fun n => .nat n.toNat) r.maxDevices ++
    [("force_installation", .bool r.forceInstallation),
      ("autogenerate_delta", .bool r.autogenerateDelta)] ++
    Json.present "update_control_map" id r.updateControlMap)

def fieldNames : List String :=
  ["name", "artifact_name", "devices", "group", "all_devices", "filter_id", "phases", "retries",
    "max_devices", "force_installation", "autogenerate_delta", "update_control_map"]

def read : Reader DeploymentRequest := fun level s => do
  let r ← Record.read fieldNames level s
  return {
    name := ← r.required "name" .string
    artifactName := ← r.required "artifact_name" .string
    devices := ← r.optional "devices" (.list .string)
    group := ← r.optional "group" .string
    allDevices := ← r.optional "all_devices" .bool
    filterId := ← r.optional "filter_id" .string
    phases := ← r.optional "phases" (.list RequestPhase.read)
    retries := ← r.optional "retries" .uint32
    maxDevices := ← r.optional "max_devices" .uint64
    forceInstallation := ← r.withDefault "force_installation" false .bool
    autogenerateDelta := ← r.withDefault "autogenerate_delta" false .bool
    updateControlMap := ← r.optional "update_control_map" .value }

end DeploymentRequest
end FleetRollout
