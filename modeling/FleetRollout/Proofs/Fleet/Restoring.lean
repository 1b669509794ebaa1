import FleetRollout.Fleet.Inventory
import FleetRollout.Proofs.Deployment.Request
import FleetRollout.Proofs.Json.Restoring

/-! Devices, groups, filters and what the management API tells of them are read again from what is
written for them. Attributes of devices and terms of filters may be any JSON, so these are read
again only if they were read before. -/
namespace FleetRollout

open Json (Fits Record Restores areWhole_map_of_mem deepest isWhole_orNull isWhole_strings restores_list
  restores_map restores_value)

namespace DeviceRecord

theorem read_tree {level : Nat} {d : DeviceRecord}
    (free : Json.Reader.map (level + 1) (attributesToJson d.attributes).tree = some d.attributes) :
    read level d.toJson.tree = some d := by
  refine .trans (Record.read_then rfl (by decide)) ?_
  refine .trans (Record.required_then rfl rfl) ?_
  exact .trans (Record.withDefault_then rfl free) rfl

/-- There has to be room for attributes, since they are written also where they were missing. -/
theorem restores {level : Nat} (room : level + 1 < deepest) : Restores level read toJson := by
  intro s d reads whole
  simp only [read, Option.bind_eq_bind, Option.bind_eq_some_iff] at reads
  obtain ⟨r, opened, id, _, attributes, found, same⟩ := reads
  obtain rfl := Option.some.inj same
  have deeper := Record.level_of_read opened
  apply read_tree
  rw [← deeper] at room ⊢
  refine Record.withDefault_tree (restores_map _) found (if_pos room) ?_
  simpa [toJson, attributesToJson, Json.isWhole, Json.membersAreWhole] using whole

def Kept (level : Nat) (d : DeviceRecord) : Prop := Fits (level + 1) (attributesToJson d.attributes)

theorem Kept.reads {level : Nat} {d : DeviceRecord} (kept : d.Kept level) :
    d.toJson.isWhole = true ∧ read level d.toJson.tree = some d := by
  have whole : (attributesToJson d.attributes).isWhole = true := (Fits.reads kept).1
  exact ⟨by simp [toJson, Json.isWhole, Json.membersAreWhole, whole], read_tree kept.map⟩

end DeviceRecord

namespace GroupInfo

theorem read_tree (level : Nat) (g : GroupInfo) : read level g.toJson.tree = some g := by
  refine .trans (Record.read_then rfl (by decide)) ?_
  refine .trans (Record.required_then rfl rfl) ?_
  exact .trans (Record.orNull_then rfl fun _ _ => ⟨rfl, nofun⟩) rfl

theorem isWhole_toJson (g : GroupInfo) : g.toJson.isWhole = true := by
  simp [toJson, Json.isWhole, Json.membersAreWhole, isWhole_orNull]

end GroupInfo

namespace SavedFilter

theorem read_tree (level : Nat) (f : SavedFilter) : read level f.toJson.tree = some f := by
  refine .trans (Record.read_then rfl (by decide)) ?_
  refine .trans (Record.required_then rfl rfl) ?_
  exact .trans (Record.required_then rfl rfl) rfl

theorem isWhole_toJson (f : SavedFilter) : f.toJson.isWhole = true := rfl

end SavedFilter

namespace DeviceCount

theorem read_tree (level : Nat) (c : DeviceCount) : read level c.toJson.tree = some c := by
  refine .trans (Record.read_then rfl (by decide)) ?_
  exact .trans (Record.required_then rfl (Json.uint64_tree _ _)) rfl

theorem isWhole_toJson (c : DeviceCount) : c.toJson.isWhole = true := rfl

end DeviceCount

namespace InventoryAttribute

theorem read_tree {level : Nat} {a : InventoryAttribute}
    (free : Json.Reader.value (level + 1) a.value.tree = some a.value) :
    read level a.toJson.tree = some a := by
  refine .trans (Record.read_then rfl (by decide)) ?_
  refine .trans (Record.required_then rfl rfl) ?_
  refine .trans (Record.required_then rfl free) ?_
  exact .trans (Record.orNull_then rfl fun _ _ => ⟨rfl, nofun⟩) rfl

theorem restores (level : Nat) : Restores level read toJson := by
  intro s a reads whole
  simp only [read, Option.bind_eq_bind, Option.bind_eq_some_iff] at reads
  obtain ⟨r, opened, name, _, value, found, scope, _, same⟩ := reads
  obtain rfl := Option.some.inj same
  apply read_tree
  rw [← Record.level_of_read opened]
  refine Record.required_tree (restores_value _) found ?_
  simp_all [toJson, Json.isWhole, Json.membersAreWhole]

theorem reads_of_fits {level : Nat} {a : InventoryAttribute} (fits : Fits (level + 1) a.value) :
    a.toJson.isWhole = true ∧ read level a.toJson.tree = some a := by
  obtain ⟨whole, again⟩ := fits.reads
  refine ⟨?_, read_tree again⟩
  simp [toJson, Json.isWhole, Json.membersAreWhole, isWhole_orNull, whole]

end InventoryAttribute

namespace InventoryDevice

theorem read_tree {level : Nat} {d : InventoryDevice}
    (free : Json.Reader.list InventoryAttribute.read (level + 1)
      (Json.arr (d.attributes.map InventoryAttribute.toJson)).tree = some d.attributes) :
    read level d.toJson.tree = some d := by
  refine .trans (Record.read_then rfl (by decide)) ?_
  refine .trans (Record.required_then rfl rfl) ?_
  exact .trans (Record.withDefault_then rfl free) rfl

theorem restores (level : Nat) : Restores level read toJson := by
  intro s d reads whole
  simp only [read, Option.bind_eq_bind, Option.bind_eq_some_iff] at reads
  obtain ⟨r, opened, id, _, attributes, found, same⟩ := reads
  obtain rfl := Option.some.inj same
  apply read_tree
  rw [← Record.level_of_read opened]
  refine Record.withDefault_tree (restores_list (InventoryAttribute.restores _)) found rfl ?_
  simpa [toJson, Json.isWhole, Json.membersAreWhole] using whole

def Kept (d : InventoryDevice) : Prop := ∀ a ∈ d.attributes, Fits 3 a.value

theorem Kept.reads {d : InventoryDevice} (kept : d.Kept) :
    d.toJson.isWhole = true ∧ read 0 d.toJson.tree = some d := by
  constructor
  · have whole := areWhole_map_of_mem fun a found =>
      (InventoryAttribute.reads_of_fits (kept a found)).1
    simpa [toJson, Json.isWhole, Json.membersAreWhole] using whole
  · exact read_tree (Json.list_tree fun a found =>
      (InventoryAttribute.reads_of_fits (kept a found)).2)

end InventoryDevice

namespace InventoryFilter

theorem read_tree {level : Nat} {f : InventoryFilter}
    (free : Json.Reader.list .value (level + 1) (Json.arr f.terms).tree = some f.terms) :
    read level f.toJson.tree = some f := by
  refine .trans (Record.read_then rfl (by decide)) ?_
  refine .trans (Record.required_then rfl rfl) ?_
  refine .trans (Record.required_then rfl rfl) ?_
  exact .trans (Record.withDefault_then rfl free) rfl

theorem restores (level : Nat) : Restores level read toJson := by
  intro s f reads whole
  simp only [read, Option.bind_eq_bind, Option.bind_eq_some_iff] at reads
  obtain ⟨r, opened, id, _, name, _, terms, found, same⟩ := reads
  obtain rfl := Option.some.inj same
  apply read_tree
  have each := Record.withDefault_tree (restores_list (restores_value _)) found rfl
    (by simpa [toJson, Json.isWhole, Json.membersAreWhole] using whole)
  rwa [Record.level_of_read opened, List.map_id] at each

def Kept (f : InventoryFilter) : Prop := ∀ j ∈ f.terms, Fits 2 j

theorem Kept.reads {f : InventoryFilter} (kept : f.Kept) :
    f.toJson.isWhole = true ∧ read 0 f.toJson.tree = some f := by
  constructor
  · have whole : Json.areWhole (f.terms.map fun j => j) = true :=
      areWhole_map_of_mem fun j found => (kept j found).reads.1
    simpa [toJson, Json.isWhole, Json.membersAreWhole] using whole
  · have again := Json.list_tree fun j found => (kept j found).reads.2
    rw [List.map_id'] at again
    exact read_tree again

end InventoryFilter

namespace ReleaseInfo

theorem read_tree (level : Nat) (i : ReleaseInfo) : read level i.toJson.tree = some i := by
  refine .trans (Record.read_then rfl (by decide)) ?_
  refine .trans (Record.required_then rfl rfl) ?_
  refine .trans (Record.withDefault_then rfl (Json.strings_tree _ _)) ?_
  exact .trans (Record.orNull_then rfl fun t _ => ⟨Instant.read_tree _ t, nofun⟩) rfl

theorem isWhole_toJson (i : ReleaseInfo) : i.toJson.isWhole = true := by
  simp [toJson, Json.isWhole, Json.membersAreWhole, isWhole_orNull, isWhole_strings, Instant.toJson]

end ReleaseInfo

namespace DeploymentsConfig

theorem read_tree (level : Nat) (c : DeploymentsConfig) : read level c.toJson.tree = some c := by
  have delta : DeltaConfig.read (level + 1) c.delta.toJson.tree = some c.delta := by
    refine .trans (Record.read_then rfl (by decide)) ?_
    exact .trans (Record.withDefault_then rfl rfl) rfl
  refine .trans (Record.read_then rfl (by decide)) ?_
  exact .trans (Record.withDefault_then rfl delta) rfl

theorem isWhole_toJson (c : DeploymentsConfig) : c.toJson.isWhole = true := rfl

end DeploymentsConfig

namespace ErrorReport

theorem read_tree (level : Nat) (e : ErrorReport) : read level e.toJson.tree = some e := by
  refine .trans (Record.read_then rfl (by decide)) ?_
  refine .trans (Record.required_then rfl rfl) ?_
  exact .trans (Record.orNull_then rfl fun _ _ => ⟨rfl, nofun⟩) rfl

theorem isWhole_toJson (e : ErrorReport) : e.toJson.isWhole = true := by
  simp [toJson, Json.isWhole, Json.membersAreWhole, isWhole_orNull]

end ErrorReport
end FleetRollout
