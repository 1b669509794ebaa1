import FleetRollout.Proofs.Fleet.Restoring
import FleetRollout.Selection.Basic

/-! Phases, targets and selections are read again from what is written for them. The control map of
a selection and the attributes of its devices may be any JSON. -/
namespace FleetRollout

open Json (Record Restores deepest areWhole_map isWhole_orNull isWhole_strings restores_list)

namespace Delay

theorem read_tree (level : Nat) (d : Delay) : read level d.toJson.tree = some d := by
  have unit (level : Nat) : DelayUnit.read level (Json.str d.unit.name).tree = some d.unit := by
    cases d.unit <;> rfl
  refine .trans (Record.read_then rfl (by decide)) ?_
  refine .trans (Record.required_then rfl (Json.uint32_tree _ _)) ?_
  exact .trans (Record.required_then rfl (unit _)) rfl

end Delay

namespace Phase

theorem read_tree (level : Nat) (p : Phase) : read level p.toJson.tree = some p := by
  refine .trans (Record.read_then rfl (by decide)) ?_
  refine .trans (Record.orNull_then rfl fun n _ => ⟨Json.uint32_tree _ n, nofun⟩) ?_
  refine .trans (Record.orNull_then rfl fun t _ => ⟨Instant.read_tree _ t, nofun⟩) ?_
  exact .trans (Record.orNull_then rfl fun d _ => ⟨d.read_tree _, nofun⟩) rfl

theorem isWhole_toJson (p : Phase) : p.toJson.isWhole = true := by
  simp [toJson, Json.isWhole, Json.membersAreWhole, isWhole_orNull, Json.nat, Instant.toJson,
    Delay.toJson]

end Phase

namespace Target

theorem read_tagged {level : Nat} (tag : Tag) {value : Json} {target : Target}
    (reads : readValue tag (level + 1) value.tree = some target) :
    read level (Json.obj [("mode", .str tag.name), ("value", value)]).tree = some target := by
  have tagged : Tag.read (level + 1) (Json.str tag.name).tree = some tag := by
    cases tag <;> rfl
  exact (congrArg (Option.bind · _) tagged).trans reads

theorem read_tree (level : Nat) (t : Target) : read level t.toJson.tree = some t := by
  cases t with
  | unselected | allDevices => rfl
  | devices ids =>
    exact read_tagged .devices (congrArg (Option.map devices) (Json.strings_tree _ ids))
  | group name => exact read_tagged .group rfl
  | filter f => exact read_tagged .filter (congrArg (Option.map filter) (f.read_tree (level + 1)))

theorem isWhole_toJson (t : Target) : t.toJson.isWhole = true := by
  cases t with
  | unselected | allDevices | group | filter => rfl
  | devices ids => simp [toJson, Json.isWhole, Json.membersAreWhole, isWhole_strings]

end Target

namespace Selection

theorem read_tree {level : Nat} {s : Selection}
    (devices : Json.Reader.list DeviceRecord.read (level + 1)
      (Json.arr (s.resolvedDevices.map DeviceRecord.toJson)).tree = some s.resolvedDevices)
    (free : ∀ j ∈ s.updateControlMap,
      Json.Reader.value (level + 1) j.tree = some j ∧ j.tree ≠ .null) :
    read level s.toJson.tree = some s := by
  have release (level : Nat) (r : Release) : Release.read level r.toJson.tree = some r := rfl
  refine .trans (Record.read_then rfl (by decide)) ?_
  refine .trans (Record.orNull_then rfl fun r _ => ⟨release _ r, nofun⟩) ?_
  refine .trans (Record.withDefault_then rfl (s.target.read_tree _)) ?_
  refine .trans (Record.withDefault_then rfl (Json.uint64_tree _ _)) ?_
  refine .trans (Record.withDefault_then rfl (Json.strings_tree _ _)) ?_
  refine .trans (Record.withDefault_then rfl devices) ?_
  refine .trans (Record.orNull_then rfl fun _ _ => ⟨rfl, nofun⟩) ?_
  refine .trans (Record.orNull_then rfl fun ps _ =>
    ⟨Json.list_tree fun p _ => p.read_tree _, nofun⟩) ?_
  refine .trans (Record.withDefault_then rfl (Json.uint32_tree _ _)) ?_
  refine .trans (Record.withDefault_then rfl rfl) ?_
  refine .trans (Record.withDefault_then rfl rfl) ?_
  refine .trans (Record.withDefault_then rfl rfl) ?_
  refine .trans (Record.orNull_then rfl fun n _ => ⟨Json.uint64_tree _ n, nofun⟩) ?_
  exact .trans (Record.orNull_then rfl free) rfl

/-- The fields that may hold any JSON, where they were read. -/
theorem read_eq_some {level : Nat} {tree : Json.Syntax} {s : Selection}
    (reads : read level tree = some s) :
    ∃ r : Record, r.level = level + 1 ∧
      r.withDefault "resolved_devices" [] (.list DeviceRecord.read) = some s.resolvedDevices ∧
      r.optional "update_control_map" .value = some s.updateControlMap := by
  obtain ⟨r, opened, reads⟩ := Option.bind_eq_some_iff.mp reads
  iterate 4 obtain ⟨_, _, reads⟩ := Option.bind_eq_some_iff.mp reads
  obtain ⟨_, devices, reads⟩ := Option.bind_eq_some_iff.mp reads
  iterate 7 obtain ⟨_, _, reads⟩ := Option.bind_eq_some_iff.mp reads
  obtain ⟨_, controlMap, same⟩ := Option.bind_eq_some_iff.mp reads
  obtain rfl := Option.some.inj same
  exact ⟨r, Record.level_of_read opened, devices, controlMap⟩

/-- Other numbers in a selection are integers. -/
theorem isWhole_toJson_iff {s : Selection} :
    s.toJson.isWhole = true ↔
      (Json.arr (s.resolvedDevices.map DeviceRecord.toJson)).isWhole = true ∧
      ∀ j ∈ s.updateControlMap, j.isWhole = true := by
  have release (r : Release) : r.toJson.isWhole = true := rfl
  have phases (ps : List Phase) : (phasesToJson ps).isWhole = true :=
    areWhole_map Phase.isWhole_toJson ps
  simp [toJson, Json.isWhole, Json.membersAreWhole, isWhole_orNull, isWhole_strings, release,
    phases, Target.isWhole_toJson, Json.nat, Option.all_eq_true]

/-- There has to be room for the attributes of devices. -/
theorem restores {level : Nat} (room : level + 3 < deepest) : Restores level read toJson := by
  intro tree s reads whole
  obtain ⟨r, deeper, devices, controlMap⟩ := read_eq_some reads
  obtain ⟨wholeDevices, wholeMap⟩ := isWhole_toJson_iff.mp whole
  have each : Restores (r.level + 1) DeviceRecord.read DeviceRecord.toJson :=
    DeviceRecord.restores (by omega)
  apply read_tree
  · rw [← deeper]
    exact Record.withDefault_tree (restores_list each) devices rfl wholeDevices
  · rw [← deeper]
    exact Record.optional_value_tree controlMap wholeMap

end Selection
end FleetRollout
