import FleetRollout.Proofs.Selection.Restoring

/-! Everything that goes over the wire or is kept as a selection: what was read from a text is read
again from the text that is written for it. -/
namespace FleetRollout

open Json (Fits Record Restores Rereads RereadsFitting rereads rereadsFitting)

namespace DeploymentRequest

/-- The control map, which may be any JSON, where it was read. -/
theorem read_eq_some {level : Nat} {tree : Json.Syntax} {d : DeploymentRequest}
    (reads : read level tree = some d) :
    ∃ r : Record, r.level = level + 1 ∧
      r.optional "update_control_map" .value = some d.updateControlMap := by
  obtain ⟨r, opened, reads⟩ := Option.bind_eq_some_iff.mp reads
  iterate 11 obtain ⟨_, _, reads⟩ := Option.bind_eq_some_iff.mp reads
  obtain ⟨_, controlMap, same⟩ := Option.bind_eq_some_iff.mp reads
  obtain rfl := Option.some.inj same
  exact ⟨r, Record.level_of_read opened, controlMap⟩

theorem restores (level : Nat) : Restores level read toJson := by
  intro tree d reads whole
  obtain ⟨r, deeper, controlMap⟩ := read_eq_some reads
  apply read_tree
  rw [← deeper]
  refine Record.optional_value_tree controlMap fun j held => ?_
  have written : ("update_control_map", j) ∈ d.members := by
    simp [members, Json.present, Option.mem_def.mp held]
  exact Json.isWhole_of_mem_members whole written

/-- A request whose control map fits, if it has one. One that is null would be read as none. -/
def Kept (d : DeploymentRequest) : Prop := ∀ j ∈ d.updateControlMap, j ≠ .null ∧ Fits 1 j

theorem Kept.reads {d : DeploymentRequest} (kept : d.Kept) :
    d.toJson.isWhole = true ∧ read 0 d.toJson.tree = some d :=
  ⟨isWhole_toJson fun j held => (kept j held).2.reads.1, read_tree 0 (Fits.optional kept)⟩

end DeploymentRequest

namespace Selection

/-- A selection with a control map and with attributes of devices that fit. -/
structure Kept (s : Selection) : Prop where
  devices : ∀ d ∈ s.resolvedDevices, d.Kept 2
  controlMap : ∀ j ∈ s.updateControlMap, j ≠ .null ∧ Fits 1 j

theorem Kept.reads {s : Selection} (kept : s.Kept) :
    s.toJson.isWhole = true ∧ read 0 s.toJson.tree = some s := by
  constructor
  · refine isWhole_toJson_iff.mpr ⟨?_, fun j held => (kept.controlMap j held).2.reads.1⟩
    exact Json.areWhole_map_of_mem fun d found => (kept.devices d found).reads.1
  · refine read_tree ?_ (Fits.optional kept.controlMap)
    exact Json.list_tree fun d found => (kept.devices d found).reads.2

end Selection

/-- Every record is read again from what is written for it. For one that may hold JSON of any kind
this goes for what was read from a text, unless it holds a number that is no integer of 64 bits, and
for all that such JSON fits in. -/
theorem records_are_read_again :
    RereadsFitting DeploymentRequest.read DeploymentRequest.toJson DeploymentRequest.Kept ∧
    Rereads RequestPhase.read RequestPhase.toJson ∧
    Rereads Phase.read Phase.toJson ∧
    Rereads Target.read Target.toJson ∧
    RereadsFitting Selection.read Selection.toJson Selection.Kept ∧
    RereadsFitting DeviceRecord.read DeviceRecord.toJson (DeviceRecord.Kept 0) ∧
    Rereads GroupInfo.read GroupInfo.toJson ∧
    Rereads SavedFilter.read SavedFilter.toJson ∧
    RereadsFitting InventoryDevice.read InventoryDevice.toJson InventoryDevice.Kept ∧
    RereadsFitting InventoryFilter.read InventoryFilter.toJson InventoryFilter.Kept ∧
    Rereads ReleaseInfo.read ReleaseInfo.toJson ∧
    Rereads DeviceCount.read DeviceCount.toJson ∧
    Rereads DeploymentsConfig.read DeploymentsConfig.toJson ∧
    Rereads ErrorReport.read ErrorReport.toJson :=
  ⟨rereadsFitting (DeploymentRequest.restores 0) fun _ => DeploymentRequest.Kept.reads,
    rereads (RequestPhase.read_tree 0) RequestPhase.isWhole_toJson,
    rereads (Phase.read_tree 0) Phase.isWhole_toJson,
    rereads (Target.read_tree 0) Target.isWhole_toJson,
    rereadsFitting (Selection.restores (by decide)) fun _ => Selection.Kept.reads,
    rereadsFitting (DeviceRecord.restores (by decide)) fun _ => DeviceRecord.Kept.reads,
    rereads (GroupInfo.read_tree 0) GroupInfo.isWhole_toJson,
    rereads (SavedFilter.read_tree 0) SavedFilter.isWhole_toJson,
    rereadsFitting (InventoryDevice.restores 0) fun _ => InventoryDevice.Kept.reads,
    rereadsFitting (InventoryFilter.restores 0) fun _ => InventoryFilter.Kept.reads,
    rereads (ReleaseInfo.read_tree 0) ReleaseInfo.isWhole_toJson,
    rereads (DeviceCount.read_tree 0) DeviceCount.isWhole_toJson,
    rereads (DeploymentsConfig.read_tree 0) DeploymentsConfig.isWhole_toJson,
    rereads (ErrorReport.read_tree 0) ErrorReport.isWhole_toJson⟩

/-- A selection with a key twice in its control map, and with a target whose value comes first. -/
def loosely : String :=
  "\x7b\"update_control_map\": \x7b\"b\": 0.5, \"b\": [null, -2]\x7d," ++
    "\"target\": \x7b\"value\": [\"d1\"], \"mode\": \"EXPLICIT_DEVICES\"\x7d\x7d"

/-- A request with a null for its group, and with a control map with a null in it. -/
def requested : String :=
  "\x7b\"artifact_name\": \"app-1\", \"name\": \"all\", \"all_devices\": true, \"group\": null," ++
    "\"update_control_map\": \x7b\"b\": [null, -2]\x7d\x7d"

theorem records_are_read_again_loosely :
    (∃ s, Selection.read.ofString? loosely = some s ∧ s.target = .devices ["d1"] ∧
      Json.ReadsBack Selection.read Selection.toJson s) ∧
    ∃ r, DeploymentRequest.read.ofString? requested = some r ∧ r.allDevices = some true ∧
      r.updateControlMap.isSome = true ∧
      Json.ReadsBack DeploymentRequest.read DeploymentRequest.toJson r := by
  have held : ((Selection.read.ofString? loosely).any fun s =>
      s.target = .devices ["d1"] && s.toJson.isWhole) = true := by decide +kernel
  obtain ⟨s, reads, found⟩ := (Option.any_eq_true _ _).mp held
  obtain ⟨target, whole⟩ := Bool.and_eq_true_iff.mp found
  have asked : ((DeploymentRequest.read.ofString? requested).any fun r =>
      r.allDevices = some true && r.updateControlMap.isSome && r.toJson.isWhole) = true := by
    decide +kernel
  obtain ⟨r, again, known⟩ := (Option.any_eq_true _ _).mp asked
  simp only [Bool.and_eq_true, decide_eq_true_eq] at known
  obtain ⟨request, _, _, _, selection, _⟩ := records_are_read_again
  exact ⟨⟨s, reads, of_decide_eq_true target, selection.reread loosely s reads whole⟩,
    r, again, known.1.1, known.1.2, request.reread requested r again known.2⟩

end FleetRollout
