import FleetRollout.Json.Reader

/-! Devices with the attributes known of them, device groups and saved filters. -/
namespace FleetRollout

open Json (Reader Record)

abbrev DeviceId := String

abbrev Attributes := Dict Json

abbrev DevicesById := Dict Attributes

def attributesToJson (attributes : Attributes) : Json := .obj attributes.entries

structure DeviceRecord where
  id : DeviceId
  attributes : Attributes := .empty

namespace DeviceRecord

/-- The record of a device; one that is not known has no attributes. -/
def join (id : DeviceId) (devices : DevicesById) : DeviceRecord :=
  ⟨id, (devices.get? id).getD .empty⟩

def toJson (r : DeviceRecord) : Json :=
  .obj [("id", .str r.id), ("attributes", attributesToJson r.attributes)]

def read : Reader DeviceRecord := fun level s => do
  let r ← Record.read ["id", "attributes"] level s
  return { id := ← r.required "id" .string
           attributes := ← r.withDefault "attributes" .empty .map }

end DeviceRecord

/-- A device group; one that is backed by a saved filter names it. -/
structure GroupInfo where
  name : String
  filterId : Option String := none
deriving DecidableEq, Repr

namespace GroupInfo

def toJson (g : GroupInfo) : Json :=
  .obj [("name", .str g.name), ("filter_id", Json.orNull .str g.filterId)]

def read : Reader GroupInfo := fun level s => do
  let r ← Record.read ["name", "filter_id"] level s
  return { name := ← r.required "name" .string
           filterId := ← r.optional "filter_id" .string }

/-- Groups by name; of two groups of one name the last one stays. -/
def byName (groups : List GroupInfo) : Dict GroupInfo :=
  .ofList (groups.map fun g => (g.name, g))

end GroupInfo

structure SavedFilter where
  id : String
  name : String
deriving DecidableEq, Repr

namespace SavedFilter

def toJson (f : SavedFilter) : Json := .obj [("id", .str f.id), ("name", .str f.name)]

def read : Reader SavedFilter := fun level s => do
  let r ← Record.read ["id", "name"] level s
  return { id := ← r.required "id" .string
           name := ← r.required "name" .string }

end SavedFilter
end FleetRollout
