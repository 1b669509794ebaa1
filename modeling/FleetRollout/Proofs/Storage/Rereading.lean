import FleetRollout.Proofs.Selection.Restoring
import FleetRollout.Proofs.Storage.Disk
import FleetRollout.Proofs.Storage.Remembering
import FleetRollout.Proofs.Wizard.Reopening

/-! Settings come back from their file: what was saved is loaded again, field by field, and so is what
a deployment leaves behind in them. -/
namespace FleetRollout

open Json (Record isWhole_orNull areWhole_map)

theorem LogLevel.read_tree (level : Nat) (l : LogLevel) :
    LogLevel.read level (Json.str l.name).tree = some l := by
  have named : ofName? l.name = some l := by
    cases l <;> decide +kernel
  exact named

namespace BackendSettings

theorem read_tree (level : Nat) (b : BackendSettings) : read level b.toJson.tree = some b := by
  refine .trans (Record.read_then rfl (by decide)) ?_
  refine .trans (Record.withDefault_then rfl rfl) ?_
  exact .trans (Record.orNull_then rfl fun _ _ => ⟨rfl, nofun⟩) rfl

theorem isWhole_toJson (b : BackendSettings) : b.toJson.isWhole = true := by
  simp [toJson, Json.isWhole, Json.membersAreWhole, isWhole_orNull]

end BackendSettings

namespace Capabilities

theorem read_tree (level : Nat) (c : Capabilities) : read level c.toJson.tree = some c := by
  refine .trans (Record.read_then rfl (by decide)) ?_
  refine .trans (Record.withDefault_then rfl rfl) ?_
  refine .trans (Record.withDefault_then rfl rfl) ?_
  exact .trans (Record.withDefault_then rfl rfl) rfl

theorem isWhole_toJson (c : Capabilities) : c.toJson.isWhole = true := rfl

end Capabilities

namespace Settings

theorem read_tree (level : Nat) (s : Settings) : read level s.toJson.tree = some s := by
  refine .trans (Record.read_then rfl (by decide)) ?_
  refine .trans (Record.withDefault_then rfl (s.logLevel.read_tree _)) ?_
  refine .trans (Record.withDefault_then rfl rfl) ?_
  refine .trans (Record.withDefault_then rfl rfl) ?_
  refine .trans (Record.withDefault_then rfl (s.backend.read_tree _)) ?_
  refine .trans (Record.withDefault_then rfl (s.capabilities.read_tree _)) ?_
  refine .trans (Record.withDefault_then rfl rfl) ?_
  refine .trans (Record.withDefault_then rfl (Json.uint32_tree _ _)) ?_
  refine .trans (Record.orNull_then rfl fun phases _ =>
    ⟨Json.list_tree fun p _ => p.read_tree _, nofun⟩) ?_
  exact .trans (Record.withDefault_then rfl (Json.uint64_tree _ _)) rfl

theorem isWhole_toJson (s : Settings) : s.toJson.isWhole = true := by
  have phases (ps : List Phase) : (phasesToJson ps).isWhole = true :=
    areWhole_map Phase.isWhole_toJson ps
  simp [toJson, Json.isWhole, Json.membersAreWhole, isWhole_orNull, Json.nat,
    s.backend.isWhole_toJson, s.capabilities.isWhole_toJson, phases]

theorem ofText_toText (s : Settings) : ofText s.toText = .ok s := by
  have found : read.ofString? s.toText = some s := by
    rw [Json.Reader.ofString?, toText, Json.ofString?_lines s.isWhole_toJson, Option.bind_some]
    exact s.read_tree 0
  rw [ofText, found]

end Settings

namespace Storage
open Disk

variable {path : String} {s : Settings} {disk written : Disk}

theorem run_ask {α : Type} (q : Question) (next : q.Answer → Program α) (disk : Disk) :
    (run (.ask q next)).run disk = (run (next (disk.answer q).1)).run (disk.answer q).2 := rfl

/-- Settings are saved if and only if their text is written. -/
theorem run_saveSettings_eq_ok :
    (run (saveSettings path s)).run disk = (.ok (), written) ↔
      disk.write path s.toText = .ok written := by
  change (run (.ask (.write path s.toText) _)).run disk = _ ↔ _
  rw [run_ask, answer]
  cases disk.write path s.toText with
  | error fault => exact ⟨nofun, nofun⟩
  | ok made =>
    constructor
    · intro saved
      obtain rfl : made = written := (Prod.mk.inj saved).2
      rfl
    · intro same
      rw [Except.ok.inj same]
      rfl

/-- What is in the file decides what is loaded, and nothing changes. -/
theorem run_loadSettings_of_read {text : String} (found : disk.read path = .ok text) :
    (run (loadSettings path)).run disk = (Settings.ofText text, disk) := by
  change (run (.ask (.read path) _)).run disk = _
  rw [run_ask, answer, found]
  rfl

theorem run_loadSettingsOrDefault_of_read {text : String} (found : disk.read path = .ok text) :
    (run (loadSettingsOrDefault path)).run disk = (Settings.ofText text, disk) := by
  have there := examine_of_read found
  change (run (if (disk.examine path).isOk then loadSettings path else _)).run disk = _
  rw [there]
  exact run_loadSettings_of_read found

/-- What was saved is loaded. -/
theorem run_loadSettings (saved : (run (saveSettings path s)).run disk = (.ok (), written)) :
    (run (loadSettings path)).run written = (.ok s, written) := by
  rw [run_loadSettings_of_read (read_write (run_saveSettings_eq_ok.mp saved)), s.ofText_toText]

theorem run_loadSettingsOrDefault
    (saved : (run (saveSettings path s)).run disk = (.ok (), written)) :
    (run (loadSettingsOrDefault path)).run written = (.ok s, written) := by
  have found := read_write (run_saveSettings_eq_ok.mp saved)
  rw [run_loadSettingsOrDefault_of_read found, s.ofText_toText]

end Storage

namespace Wizard
variable {w : Wizard} {retries : UInt32} {phases : Option (List Phase)}

/-- A wizard that starts from these retries and has these phases to use again, where the tenant may
have phases and where there are any. -/
structure Offers (w : Wizard) (retries : UInt32) (phases : Option (List Phase)) : Prop where
  preset : w.selection.retries = retries
  remembered : w.options.previousPhases = phases
  usable : ∀ w', w.usePreviousPhases = (.ok (), w') ↔
    w.options.canSchedule = true ∧ ∃ ps, phases = some ps ∧ ps ≠ [] ∧
      w' = { w with selection := { w.selection with phases := some ps } }

theorem Offers.of_editable (editable : w.lifecycle.isEditable = true)
    (preset : w.selection.retries = w.options.defaultRetries) :
    w.Offers w.options.defaultRetries w.options.previousPhases := by
  refine ⟨preset, rfl, fun w' => ?_⟩
  rw [usePreviousPhases_eq_ok]
  constructor
  · rintro ⟨ps, saved, nonempty, used⟩
    obtain ⟨⟨_, schedules⟩, rfl⟩ := (setPhases_edited w (some ps)).eq_ok.mp used
    exact ⟨schedules (by simpa using nonempty), ps, saved, nonempty, rfl⟩
  · rintro ⟨schedules, ps, saved, nonempty, rfl⟩
    refine ⟨ps, saved, nonempty, ?_⟩
    exact (setPhases_edited w (some ps)).eq_ok.mpr ⟨⟨editable, fun _ => schedules⟩, rfl⟩

/-- A new wizard opens whatever can be loaded, and offers what its options say. -/
theorem new_open_ensures (options : Options) :
    (new options).open.Ensures fun _ r =>
      r.1 = .ok () ∧ r.2.options = options ∧
        r.2.Offers options.defaultRetries options.previousPhases := by
  refine (open_ensures (new options)).imp ?_
  rintro _ _ ⟨o, _, rfl⟩
  rw [opened_eq]
  exact ⟨rfl, rfl, .of_editable rfl rfl⟩

end Wizard

namespace Settings
open Storage

/-- Settings are loaded as they were saved. What a deployment leaves behind is loaded with all else
unchanged, and a wizard that is opened with it offers just that. -/
theorem settings_survive_file (s : Settings) (path : String) :
    ofText s.toText = .ok s ∧
    (∀ disk written : Disk, (Disk.run (saveSettings path s)).run disk = (.ok (), written) →
      (Disk.run (loadSettings path)).run written = (.ok s, written) ∧
      (Disk.run (loadSettingsOrDefault path)).run written = (.ok s, written)) ∧
    ∀ (selection : Selection) (disk written : Disk),
      (Disk.run (saveSettings path (s.remember selection).2)).run disk = (.ok (), written) →
      ∃ loaded : Settings, (Disk.run (loadSettings path)).run written = (.ok loaded, written) ∧
        loaded =
          { s with
            defaultRetries := s.rememberedRetries selection
            previousPhases := s.rememberedPhases selection } ∧
        (Wizard.new loaded.wizardOptions).open.Ensures fun _ r =>
          r.1 = .ok () ∧ r.2.options = loaded.wizardOptions ∧
            r.2.Offers (s.rememberedRetries selection) (s.rememberedPhases selection) := by
  refine ⟨s.ofText_toText, ?_, ?_⟩
  · intro disk written saved
    exact ⟨run_loadSettings saved, run_loadSettingsOrDefault saved⟩
  · intro selection disk written saved
    rw [remember_eq] at saved
    exact ⟨_, run_loadSettings saved, rfl, Wizard.new_open_ensures _⟩

/-- A tenant whose token has a line break in it, with phases of which one starts in 1970. -/
def dated : Settings :=
  { logLevel := .warn
    backend := { baseUrl := "http://localhost/\u00E9", token := some "a\nb" }
    capabilities := { canRetry := true, canSchedule := true }
    previousPhases := some [Phase.startingAt {} .epoch] }

def twoPhased : Selection :=
  { phases := some [(Phase.ofSize 50).startingAt .epoch, {}]
    retries := 3
    saveRetriesDefault := true }

theorem settings_survive_file_dated :
    ∃ written loaded,
      (Disk.run (saveSettings "/etc/settings.json" (dated.remember twoPhased).2)).run {} =
        (.ok (), written) ∧
      (Disk.run (loadSettings "/etc/settings.json")).run written = (.ok loaded, written) ∧
      loaded.backend = dated.backend ∧ loaded.defaultRetries = 3 ∧
      loaded.previousPhases = some [.ofSize 50, {}] := by
  obtain ⟨_, _, survives⟩ := settings_survive_file dated "/etc/settings.json"
  obtain ⟨written, made⟩ : ∃ written, Disk.write {} "/etc/settings.json"
      (dated.remember twoPhased).2.toText = .ok written := ⟨_, rfl⟩
  have saved := run_saveSettings_eq_ok.mpr made
  obtain ⟨loaded, found, rfl, _⟩ := survives twoPhased {} written saved
  exact ⟨written, _, saved, found, rfl, rfl, rfl⟩

end Settings
end FleetRollout
