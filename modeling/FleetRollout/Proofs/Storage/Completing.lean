import FleetRollout.Proofs.Json.Omitting
import FleetRollout.Proofs.Storage.Rereading

/-! Settings files that leave something out. Each field is read for itself: one that is there as it
was written, and one that is not as it is in the default settings. -/
namespace FleetRollout

open Json (Record Syntax)

def Json.fieldTrees : Json → List (String × Syntax)
  | .obj members => members.map fun m => (m.1, m.2.tree)
  | _ => []

variable {keep : String → Bool}

namespace BackendSettings

/-- The fields that are kept, and the usual ones in place of the others. -/
def completed (b : BackendSettings) (keep : String → Bool) : BackendSettings :=
  let usual : BackendSettings := {}
  { baseUrl := if keep "base_url" then b.baseUrl else usual.baseUrl
    token := if keep "token" then b.token else usual.token }

theorem read_of_keeps {b : BackendSettings} {object : Syntax}
    (keeps : Record.Keeps keep b.toJson.fieldTrees object) (level : Nat) :
    read level object = some (b.completed keep) := by
  refine Record.keeps_then keeps rfl (by decide) fun r has => ?_
  refine .trans (has.withDefault_then rfl rfl) ?_
  exact .trans (has.optional_then rfl (Json.nullable_orNull fun _ _ => ⟨rfl, nofun⟩)) rfl

end BackendSettings

namespace Capabilities

def completed (c : Capabilities) (keep : String → Bool) : Capabilities :=
  let usual : Capabilities := {}
  { canRetry := if keep "can_retry" then c.canRetry else usual.canRetry
    canSchedule := if keep "can_schedule" then c.canSchedule else usual.canSchedule
    hasFullFiltering :=
      if keep "has_full_filtering" then c.hasFullFiltering else usual.hasFullFiltering }

theorem read_of_keeps {c : Capabilities} {object : Syntax}
    (keeps : Record.Keeps keep c.toJson.fieldTrees object) (level : Nat) :
    read level object = some (c.completed keep) := by
  refine Record.keeps_then keeps rfl (by decide) fun r has => ?_
  refine .trans (has.withDefault_then rfl rfl) ?_
  refine .trans (has.withDefault_then rfl rfl) ?_
  exact .trans (has.withDefault_then rfl rfl) rfl

end Capabilities

namespace Settings
open Storage

/-- The fields that are kept, and those of the default settings in place of the others. -/
def completed (s : Settings) (keep : String → Bool) : Settings :=
  let usual : Settings := {}
  { logLevel := if keep "log_level" then s.logLevel else usual.logLevel
    logJson := if keep "log_json" then s.logJson else usual.logJson
    logToFile := if keep "log_to_file" then s.logToFile else usual.logToFile
    backend := if keep "backend" then s.backend.completed keep else usual.backend
    capabilities :=
      if keep "capabilities" then s.capabilities.completed keep else usual.capabilities
    needsConfirmation :=
      if keep "needs_deployment_confirmation" then s.needsConfirmation
      else usual.needsConfirmation
    defaultRetries := if keep "default_retries" then s.defaultRetries else usual.defaultRetries
    previousPhases := if keep "previous_phases" then s.previousPhases else usual.previousPhases
    groupCountCapacity :=
      if keep "group_count_cache_capacity" then s.groupCountCapacity
      else usual.groupCountCapacity }

/-- The fields of settings, with other objects for the backend and the capabilities. -/
def fieldTrees (s : Settings) (backend capabilities : Syntax) : List (String × Syntax) :=
  s.toJson.fieldTrees.map fun (name, tree) =>
    (name, if name = "backend" then backend else if name = "capabilities" then capabilities
      else tree)

/-- An object with those fields of settings that are kept, also within the backend and within the
capabilities. No name is used in two of the three places. -/
def Keeps (keep : String → Bool) (s : Settings) (object : Syntax) : Prop :=
  ∃ backend capabilities,
    Record.Keeps keep s.backend.toJson.fieldTrees backend ∧
    Record.Keeps keep s.capabilities.toJson.fieldTrees capabilities ∧
    Record.Keeps keep (s.fieldTrees backend capabilities) object

theorem read_of_keeps {s : Settings} {object : Syntax} (keeps : Keeps keep s object)
    (level : Nat) : read level object = some (s.completed keep) := by
  obtain ⟨backend, capabilities, inBackend, inCapabilities, keeps⟩ := keeps
  refine Record.keeps_then keeps rfl (by decide) fun r has => ?_
  refine .trans (has.withDefault_then rfl (s.logLevel.read_tree _)) ?_
  refine .trans (has.withDefault_then rfl rfl) ?_
  refine .trans (has.withDefault_then rfl rfl) ?_
  refine .trans (has.withDefault_then rfl (BackendSettings.read_of_keeps inBackend _)) ?_
  refine .trans (has.withDefault_then rfl (Capabilities.read_of_keeps inCapabilities _)) ?_
  refine .trans (has.withDefault_then rfl rfl) ?_
  refine .trans (has.withDefault_then rfl (Json.uint32_tree _ _)) ?_
  refine .trans (has.optional_then rfl (Json.nullable_orNull fun phases _ =>
    ⟨Json.list_tree fun p _ => p.read_tree _, nofun⟩)) ?_
  exact .trans (has.withDefault_then rfl (Json.uint64_tree _ _)) rfl

/-- Whether a text is read as settings, also out of a file that holds it. -/
structure Holds (text : String) (s : Settings) : Prop where
  read : ofText text = .ok s
  loaded : ∀ (path : String) (disk : Disk), disk.read path = .ok text →
    (Disk.run (loadSettings path)).run disk = (.ok s, disk) ∧
    (Disk.run (loadSettingsOrDefault path)).run disk = (.ok s, disk)

theorem holds_of_ofText {s : Settings} {text : String} (read : ofText text = .ok s) :
    Holds text s := by
  refine ⟨read, ?_⟩
  intro path disk found
  rw [run_loadSettings_of_read found, run_loadSettingsOrDefault_of_read found, read]
  exact ⟨rfl, rfl⟩

theorem ofText_of_keeps {s : Settings} {object : Syntax} {text : String}
    (keeps : Keeps keep s object) (parsed : Syntax.ofString? text = some object) :
    ofText text = .ok (s.completed keep) := by
  have found : read.ofString? text = some (s.completed keep) := by
    rw [Json.Reader.ofString?, parsed]
    exact read_of_keeps keeps 0
  rw [ofText, found]

/-- A text of an object with some of the fields of settings holds these fields, and those of the
default settings in place of each other one: whichever fields are left out, in whatever order the
rest stands, and whatever the object has besides. -/
theorem partial_settings_completed {s : Settings} {object : Syntax} (keeps : Keeps keep s object) :
    (∀ text, Syntax.ofString? text = some object → Holds text (s.completed keep)) ∧
    (∀ text : String, Syntax.Spells object text.toList → Holds text (s.completed keep)) := by
  constructor
  · intro text parsed
    exact holds_of_ofText (ofText_of_keeps keeps parsed)
  · intro text spells
    exact holds_of_ofText (ofText_of_keeps keeps spells.ofString?)

def tokenJson : Json :=
  .obj [("theme", .arr [.int 1]), ("backend", .obj [("token", "t-1"), ("zone", .null)]),
    ("default_retries", .nat 2)]

def tokenSettings : Settings :=
  { logLevel := .debug
    backend := { baseUrl := "http://fleet", token := some "t-1" }
    defaultRetries := 2 }

def tokenKeys (name : String) : Bool := ["token", "default_retries", "backend"].contains name

theorem partial_settings_completed_token :
    Keeps tokenKeys tokenSettings tokenJson.tree ∧
    Holds tokenJson.compact { backend := { token := some "t-1" }, defaultRetries := 2 } := by
  have keeps : Keeps tokenKeys tokenSettings tokenJson.tree := by
    refine ⟨(Json.obj [("token", "t-1"), ("zone", .null)]).tree, .obj [], ?_, ?_, ?_⟩
    · exact ⟨[("token", .str (some "t-1")), ("zone", .null)], [("zone", .null)], rfl, .refl _,
        by simp [Json.fieldTrees, BackendSettings.toJson]⟩
    · exact ⟨[], [], rfl, .refl _, by simp⟩
    · have perm (theme backend retries : String × Syntax) :
          [theme, backend, retries].Perm [backend, retries, theme] :=
        (List.Perm.swap _ _ _).trans (.cons _ (.swap _ _ _))
      exact ⟨_, [("theme", (Json.arr [.int 1]).tree)], rfl, perm _ _ _,
        by simp [fieldTrees, Json.fieldTrees, toJson]⟩
  have parsed : Syntax.ofString? tokenJson.compact = some tokenJson.tree :=
    Json.ofString?_compact rfl
  exact ⟨keeps, (partial_settings_completed keeps).1 _ parsed⟩

end Settings
end FleetRollout
