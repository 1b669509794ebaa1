import FleetRollout.Deployment.Request
import FleetRollout.Proofs.Json.Rereading
import FleetRollout.Proofs.Time.Text

/-! A request that is written down reads as the same request. -/
namespace FleetRollout

open Json (Record present lookup_present present_sublist membersAreWhole_append
  membersAreWhole_present areWhole_map isWhole_strings)

theorem Instant.read_tree (level : Nat) (t : Instant) :
    Instant.read level t.toJson.tree = some t := by
  rw [Instant.toJson, Json.tree, Instant.read, Json.Reader.string, Option.bind_some]
  exact ofText?_toText t

namespace RequestPhase

def members (p : RequestPhase) : List (String × Json) :=
  present "batch_size" (fun n => .nat n.toNat) p.batchSize ++
    present "start_ts" Instant.toJson p.start

theorem toJson_eq (p : RequestPhase) : p.toJson = .obj p.members := rfl

theorem members_ordered (p : RequestPhase) :
    (p.members.map Prod.fst).Sublist ["batch_size", "start_ts"] := by
  rw [members, List.map_append]
  exact (present_sublist _ _ _).append (present_sublist _ _ _)

theorem lookup_members (p : RequestPhase) :
    Dict.lookup "batch_size" p.members = p.batchSize.map (fun n => .nat n.toNat) ∧
    Dict.lookup "start_ts" p.members = p.start.map Instant.toJson := by
  simp [members, Dict.lookup_append, lookup_present]

theorem read_tree (level : Nat) (p : RequestPhase) : read level p.toJson.tree = some p := by
  obtain ⟨batchSize, start⟩ := p.lookup_members
  unfold read
  rw [toJson_eq, Record.read_tree level p.members_ordered (by decide), Option.bind_eq_bind,
    Option.bind_some]
  refine .trans (Record.optional_then batchSize fun n _ => ⟨Json.uint32_tree _ n, nofun⟩) ?_
  exact .trans (Record.optional_then start fun t _ => ⟨Instant.read_tree _ t, nofun⟩) rfl

theorem isWhole_toJson (p : RequestPhase) : p.toJson.isWhole = true := by
  change Json.membersAreWhole p.members = true
  simp [members, membersAreWhole_append, membersAreWhole_present, Json.isWhole, Json.nat,
    Instant.toJson]

end RequestPhase

namespace DeploymentRequest

def members (r : DeploymentRequest) : List (String × Json) :=
  [("name", .str r.name), ("artifact_name", .str r.artifactName)] ++
    present "devices" Json.strings r.devices ++
    present "group" .str r.group ++
    present "all_devices" .bool r.allDevices ++
    present "filter_id" .str r.filterId ++
    present "phases" (fun ps => .arr (ps.map RequestPhase.toJson)) r.phases ++
    present "retries" (fun n => .nat n.toNat) r.retries ++
    present "max_devices" (fun n => .nat n.toNat) r.maxDevices ++
    [("force_installation", .bool r.forceInstallation),
      ("autogenerate_delta", .bool r.autogenerateDelta)] ++
    present "update_control_map" id r.updateControlMap

theorem toJson_eq (r : DeploymentRequest) : r.toJson = .obj r.members := rfl

theorem members_ordered (r : DeploymentRequest) : (r.members.map Prod.fst).Sublist fieldNames := by
  have whole (names : List String) : names.Sublist names := List.Sublist.refl names
  simp only [members, List.map_append]
  exact (whole ["name", "artifact_name"]).append (present_sublist _ _ _)
    |>.append (present_sublist _ _ _) |>.append (present_sublist _ _ _)
    |>.append (present_sublist _ _ _) |>.append (present_sublist _ _ _)
    |>.append (present_sublist _ _ _) |>.append (present_sublist _ _ _)
    |>.append (whole ["force_installation", "autogenerate_delta"])
    |>.append (present_sublist _ _ _)

theorem lookup_members (r : DeploymentRequest) :
    Dict.lookup "name" r.members = some (.str r.name) ∧
    Dict.lookup "artifact_name" r.members = some (.str r.artifactName) ∧
    Dict.lookup "devices" r.members = r.devices.map Json.strings ∧
    Dict.lookup "group" r.members = r.group.map .str ∧
    Dict.lookup "all_devices" r.members = r.allDevices.map .bool ∧
    Dict.lookup "filter_id" r.members = r.filterId.map .str ∧
    Dict.lookup "phases" r.members = r.phases.map (fun ps => .arr (ps.map RequestPhase.toJson)) ∧
    Dict.lookup "retries" r.members = r.retries.map (fun n => .nat n.toNat) ∧
    Dict.lookup "max_devices" r.members = r.maxDevices.map (fun n => .nat n.toNat) ∧
    Dict.lookup "force_installation" r.members = some (.bool r.forceInstallation) ∧
    Dict.lookup "autogenerate_delta" r.members = some (.bool r.autogenerateDelta) ∧
    Dict.lookup "update_control_map" r.members = r.updateControlMap.map id := by
  simp [members, Dict.lookup_append, lookup_present, Dict.lookup]

/-- A request reads back if its control map does. -/
theorem read_tree {r : DeploymentRequest} (level : Nat)
    (free : ∀ j ∈ r.updateControlMap,
      Json.Reader.value (level + 1) j.tree = some j ∧ j.tree ≠ .null) :
    read level r.toJson.tree = some r := by
  obtain ⟨name, artifact, devices, group, allDevices, filter, phases, retries, maxDevices, force,
    delta, controlMap⟩ := r.lookup_members
  unfold read
  rw [toJson_eq, Record.read_tree level r.members_ordered (by decide), Option.bind_eq_bind,
    Option.bind_some]
  refine .trans (Record.required_then name rfl) ?_
  refine .trans (Record.required_then artifact rfl) ?_
  refine .trans (Record.optional_then devices fun ids _ => ⟨Json.strings_tree _ ids, nofun⟩) ?_
  refine .trans (Record.optional_then group fun _ _ => ⟨rfl, nofun⟩) ?_
  refine .trans (Record.optional_then allDevices fun _ _ => ⟨rfl, nofun⟩) ?_
  refine .trans (Record.optional_then filter fun _ _ => ⟨rfl, nofun⟩) ?_
  refine .trans (Record.optional_then phases fun ps _ =>
    ⟨Json.list_tree fun p _ => p.read_tree _, nofun⟩) ?_
  refine .trans (Record.optional_then retries fun n _ => ⟨Json.uint32_tree _ n, nofun⟩) ?_
  refine .trans (Record.optional_then maxDevices fun n _ => ⟨Json.uint64_tree _ n, nofun⟩) ?_
  refine .trans (Record.withDefault_then force rfl) ?_
  refine .trans (Record.withDefault_then delta rfl) ?_
  exact .trans (Record.optional_then controlMap free) rfl

theorem isWhole_toJson {r : DeploymentRequest} (free : ∀ j ∈ r.updateControlMap, j.isWhole = true) :
    r.toJson.isWhole = true := by
  change Json.membersAreWhole r.members = true
  have phases := areWhole_map RequestPhase.isWhole_toJson
  simpa [members, membersAreWhole_append, membersAreWhole_present, isWhole_strings, phases,
    Json.membersAreWhole, Json.isWhole, Json.nat, Option.all_eq_true] using free

/-- The text of a request without a control map, as a preview has it, is read as the request. -/
theorem ofString?_pretty {r : DeploymentRequest} (plain : r.updateControlMap = none) :
    read.ofString? (r.toJson.pretty ++ "\n") = some r := by
  have whole : r.toJson.isWhole = true := isWhole_toJson (by simp [plain])
  rw [Json.Reader.ofString?, Json.ofString?_pretty whole, Option.bind_some]
  exact read_tree 0 (by simp [plain])

end DeploymentRequest
end FleetRollout
