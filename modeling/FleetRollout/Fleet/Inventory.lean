import FleetRollout.Fleet.Device
import FleetRollout.Rollout.Phase

/-! What the management API tells of devices, filters, releases and its own configuration. -/
namespace FleetRollout

open Json (Reader Record)

structure DeviceCount where
  count : UInt64
deriving DecidableEq, Repr

namespace DeviceCount

def toJson (c : DeviceCount) : Json := .obj [("count", .nat c.count.toNat)]

def read : Reader DeviceCount := fun level s => do
  let r ← Record.read ["count"] level s
  return ⟨← r.required "count" .uint64⟩

end DeviceCount

structure InventoryAttribute where
  name : String
  value : Json
  scope : Option String := none

namespace InventoryAttribute

def toJson (a : InventoryAttribute) : Json :=
  .obj [("name", .str a.name), ("value", a.value), ("scope", Json.orNull .str a.scope)]

def read : Reader InventoryAttribute := fun level s => do
  let r ← Record.read ["name", "value", "scope"] level s
  return { name := ← r.required "name" .string
           value := ← r.required "value" .value
           scope := ← r.optional "scope" .string }

end InventoryAttribute

structure InventoryDevice where
  id : String
  attributes : List InventoryAttribute := []

namespace InventoryDevice

def toJson (d : InventoryDevice) : Json :=
  .obj [("id", .str d.id), ("attributes", .arr (d.attributes.map InventoryAttribute.toJson))]

def read : Reader InventoryDevice := fun level s => do
  let r ← Record.read ["id", "attributes"] level s
  return { id := ← r.required "id" .string
           attributes := ← r.withDefault "attributes" [] (.list InventoryAttribute.read) }

/-- The attributes by name, whatever their scope; of two of one name the last one counts. -/
def toRecord (d : InventoryDevice) : DeviceRecord :=
  ⟨d.id, .ofList (d.attributes.map fun a => (a.name, a.value))⟩

end InventoryDevice

structure InventoryFilter where
  id : String
  name : String
  terms : List Json := []

namespace InventoryFilter

def toJson (f : InventoryFilter) : Json :=
  .obj [("id", .str f.id), ("name", .str f.name), ("terms", .arr f.terms)]

def read : Reader InventoryFilter := fun level s => do
  let r ← Record.read ["id", "name", "terms"] level s
  return { id := ← r.required "id" .string
           name := ← r.required "name" .string
           terms := ← r.withDefault "terms" [] (.list .value) }

def toSaved (f : InventoryFilter) : SavedFilter := ⟨f.id, f.name⟩

end InventoryFilter

structure ReleaseInfo where
  name : String
  tags : List String := []
  modified : Option Instant := none
deriving DecidableEq, Repr

namespace ReleaseInfo

def toJson (i : ReleaseInfo) : Json :=
  .obj [("name", .str i.name), ("tags", .strings i.tags),
    ("modified", Json.orNull Instant.toJson i.modified)]

def read : Reader ReleaseInfo := fun level s => do
  let r ← Record.read ["name", "tags", "modified"] level s
  return { name := ← r.required "name" .string
           tags := ← r.withDefault "tags" [] (.list .string)
           modified := ← r.optional "modified" Instant.read }

end ReleaseInfo

structure DeltaConfig where
  enabled : Bool := false
deriving DecidableEq, Repr

namespace DeltaConfig

def toJson (c : DeltaConfig) : Json := .obj [("enabled", .bool c.enabled)]

def read : Reader DeltaConfig := fun level s => do
  let r ← Record.read ["enabled"] level s
  return ⟨← r.withDefault "enabled" false .bool⟩

end DeltaConfig

structure DeploymentsConfig where
  delta : DeltaConfig := {}
deriving DecidableEq, Repr

namespace DeploymentsConfig

def toJson (c : DeploymentsConfig) : Json := .obj [("delta", c.delta.toJson)]

def read : Reader DeploymentsConfig := fun level s => do
  let r ← Record.read ["delta"] level s
  return ⟨← r.withDefault "delta" {} DeltaConfig.read⟩

end DeploymentsConfig

structure ErrorReport where
  error : String
  requestId : Option String := none
deriving DecidableEq, Repr

namespace ErrorReport

def toJson (e : ErrorReport) : Json :=
  .obj [("error", .str e.error), ("request_id", Json.orNull .str e.requestId)]

def read : Reader ErrorReport := fun level s => do
  let r ← Record.read ["error", "request_id"] level s
  return { error := ← r.required "error" .string
           requestId := ← r.optional "request_id" .string }

/-- The reported error, with the id of the request if it is told. -/
def message (e : ErrorReport) : String :=
  match e.requestId with
  | some id => e.error ++ " (request " ++ id ++ ")"
  | none => e.error

end ErrorReport
end FleetRollout
