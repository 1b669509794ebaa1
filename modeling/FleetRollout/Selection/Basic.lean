import FleetRollout.Rollout.Phase
import FleetRollout.Selection.Target

/-! The settings of a deployment that is about to be created, and what is derived from its
target. -/
namespace FleetRollout

open Json (Reader Record)

structure Release where
  name : String
deriving DecidableEq, Repr

namespace Release

def toJson (r : Release) : Json := .obj [("name", .str r.name)]

def read : Reader Release := fun level s => do
  let r ← Record.read ["name"] level s
  return ⟨← r.required "name" .string⟩

end Release

/-- A selection. The `resolved` fields are derived from the target and never chosen. -/
structure Selection where
  release : Option Release := none
  target : Target := .unselected
  resolvedDeviceCount : UInt64 := 0
  resolvedDeviceIds : List DeviceId := []
  resolvedDevices : List DeviceRecord := []
  /-- The saved filter behind the selected group, if there is one. -/
  resolvedFilterId : Option String := none
  phases : Option (List Phase) := none
  retries : UInt32 := 0
  /-- Whether `retries` is to be kept as the default of later deployments. -/
  saveRetriesDefault : Bool := false
  forceInstall : Bool := false
  delta : Bool := false
  maxDevices : Option UInt64 := none
  updateControlMap : Option Json := none

namespace Selection

instance : Inhabited Selection := ⟨{}⟩

/-- Replaces the target. Another target drops what was derived from the one before, except for the
device count. -/
def setTarget (s : Selection) (target : Target) : Selection :=
  if s.target = target then s
  else
    { s with
      target := target
      resolvedDeviceIds := []
      resolvedDevices := []
      resolvedFilterId := none }

def rollout? (s : Selection) : Option (List Phase) := s.phases.filter fun ps => !ps.isEmpty

def isPhased (s : Selection) : Bool := s.rollout?.isSome

def toJson (s : Selection) : Json :=
  .obj [("release", Json.orNull Release.toJson s.release),
    ("target", s.target.toJson),
    ("resolved_device_count", .nat s.resolvedDeviceCount.toNat),
    ("resolved_device_ids", .strings s.resolvedDeviceIds),
    ("resolved_devices", .arr (s.resolvedDevices.map DeviceRecord.toJson)),
    ("resolved_filter_id", Json.orNull .str s.resolvedFilterId),
    ("phases", Json.orNull phasesToJson s.phases),
    ("retries", .nat s.retries.toNat),
    ("save_retries_default", .bool s.saveRetriesDefault),
    ("force_install", .bool s.forceInstall),
    ("delta", .bool s.delta),
    ("max_devices", Json.orNull (fun n => .nat n.toNat) s.maxDevices),
    ("update_control_map", Json.orNull id s.updateControlMap)]

def fieldNames : List String :=
  ["release", "target", "resolved_device_count", "resolved_device_ids", "resolved_devices",
    "resolved_filter_id", "phases", "retries", "save_retries_default", "force_install", "delta",
    "max_devices", "update_control_map"]

def read : Reader Selection := fun level s => do
  let r ← Record.read fieldNames level s
  return {
    release := ← r.optional "release" Release.read
    target := ← r.withDefault "target" .unselected Target.read
    resolvedDeviceCount := ← r.withDefault "resolved_device_count" 0 .uint64
    resolvedDeviceIds := ← r.withDefault "resolved_device_ids" [] (.list .string)
    resolvedDevices := ← r.withDefault "resolved_devices" [] (.list DeviceRecord.read)
    resolvedFilterId := ← r.optional "resolved_filter_id" .string
    phases := ← r.optional "phases" (.list Phase.read)
    retries := ← r.withDefault "retries" 0 .uint32
    saveRetriesDefault := ← r.withDefault "save_retries_default" false .bool
    forceInstall := ← r.withDefault "force_install" false .bool
    delta := ← r.withDefault "delta" false .bool
    maxDevices := ← r.optional "max_devices" .uint64
    updateControlMap := ← r.optional "update_control_map" .value }

end Selection
end FleetRollout
