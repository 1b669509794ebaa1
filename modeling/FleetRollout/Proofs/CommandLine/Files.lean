import FleetRollout.CommandLine.World
import FleetRollout.Proofs.CommandLine.Creation
import FleetRollout.Proofs.Storage.Frame

/-! What a run does to the files of the machine. Whatever is on the disk, only the settings file is
replaced, and only a log file is added to. -/
namespace FleetRollout.CommandLine

open Storage (Disk Place)

structure Files where
  disk : Disk
  /-- How the log file is kept while it is open. -/
  log : Option LogConfig := none

namespace Files
variable {files after : Files} {e : Dialogue.Exchange interface}
  {es : List (Dialogue.Exchange interface)}

def Spared : Question → Prop
  | .file _ | .startLog _ | .log _ | .closeLogFile => False
  | _ => True

/-- What an exchange does to files. An entry may reach the log file or be lost, and the log file is
that of some day. -/
inductive Step : Files → Dialogue.Exchange interface → Files → Prop where
  | file {disk : Disk} {log : Option LogConfig} (q : Storage.Question) :
      Step ⟨disk, log⟩ ⟨.file q, (disk.answer q).1⟩ ⟨(disk.answer q).2, log⟩
  | opened {disk opened : Disk} {log : Option LogConfig} {config : LogConfig} {t : Instant}
      {path : String} (file : config.filePath? t = some path)
      (made : disk.openLog path = .ok opened) :
      Step ⟨disk, log⟩ ⟨.startLog config, .ok ()⟩ ⟨opened, some config⟩
  | unfiled {disk : Disk} {log : Option LogConfig} {config : LogConfig}
      (none : config.directory = none) : Step ⟨disk, log⟩ ⟨.startLog config, .ok ()⟩ ⟨disk, log⟩
  | unopened {disk left : Disk} {log : Option LogConfig} {config : LogConfig} (fault : FileFault)
      (start : left.workingDirectory = disk.workingDirectory)
      (same : ∀ place, left.text? place = disk.text? place) :
      Step ⟨disk, log⟩ ⟨.startLog config, .error fault⟩ ⟨left, log⟩
  | recorded {disk extended : Disk} {config : LogConfig} {entry : LogEntry} {t : Instant}
      {path text : String} (file : config.filePath? t = some path)
      (appended : disk.append path text = .ok extended) :
      Step ⟨disk, some config⟩ ⟨.log entry, ()⟩ ⟨extended, some config⟩
  | lost {disk : Disk} {log : Option LogConfig} {entry : LogEntry} :
      Step ⟨disk, log⟩ ⟨.log entry, ()⟩ ⟨disk, log⟩
  | closed {disk : Disk} {log : Option LogConfig} :
      Step ⟨disk, log⟩ ⟨.closeLogFile, ()⟩ ⟨disk, none⟩
  | spared {files : Files} {e : Dialogue.Exchange interface} (spares : Spared e.question) :
      Step files e files

/-- What exchanges do to files, one after the other. -/
inductive Leads : Files → List (Dialogue.Exchange interface) → Files → Prop where
  | refl (files : Files) : Leads files [] files
  | step {files between after : Files} {e : Dialogue.Exchange interface}
      {es : List (Dialogue.Exchange interface)} (step : Step files e between)
      (rest : Leads between es after) : Leads files (e :: es) after

def started? : Dialogue.Exchange interface → Option LogConfig
  | ⟨.startLog config, _⟩ => some config
  | _ => none

def started (es : List (Dialogue.Exchange interface)) : List LogConfig := es.filterMap started?

/-- A place of a log file of this log, on some day. -/
def IsLog (disk : Disk) (config : LogConfig) (place : Place) : Prop :=
  ∃ t path, config.filePath? t = some path ∧ disk.placeOf path = place

variable {grown : Place → Prop} {replaced : Place → String → Prop}

theorem Step.changes (step : Step files e after)
    (open_ : ∀ config ∈ files.log, ∀ place, IsLog files.disk config place → grown place)
    (opens : ∀ config ∈ started? e, ∀ place, IsLog files.disk config place → grown place)
    (replaces : ∀ path text, written? e = some (path, text) →
      replaced (files.disk.placeOf path) text) :
    files.disk.Changes grown replaced after.disk ∧
      ∀ config ∈ after.log, ∀ place, IsLog files.disk config place → grown place := by
  cases step with
  | file q =>
    refine ⟨Disk.answer_changes q ?_, open_⟩
    rintro path text rfl
    exact replaces path text rfl
  | opened file made =>
    have grows := opens _ (by rfl)
    refine ⟨Disk.openLog_changes made (grows _ ⟨_, _, file, rfl⟩), ?_⟩
    rintro config ⟨⟩
    exact grows
  | unfiled none => exact ⟨.refl _, open_⟩
  | unopened fault start same => exact ⟨.of_same start same, open_⟩
  | recorded file appended =>
    exact ⟨Disk.append_changes appended (open_ _ (by rfl) _ ⟨_, _, file, rfl⟩), open_⟩
  | lost => exact ⟨.refl _, open_⟩
  | closed => exact ⟨.refl _, by simp⟩
  | spared spares => exact ⟨.refl _, open_⟩

theorem isLog_of_changes {disk disk' : Disk} {config : LogConfig} {place : Place}
    (changes : disk.Changes grown replaced disk') :
    IsLog disk' config place ↔ IsLog disk config place := by
  unfold IsLog
  simp only [changes.placeOf]

/-- Over a whole run, texts change only where a log file is added to and where something is
written. -/
theorem Leads.changes (leads : Leads files es after)
    (open_ : ∀ config ∈ files.log, ∀ place, IsLog files.disk config place → grown place)
    (opens : ∀ config ∈ started es, ∀ place, IsLog files.disk config place → grown place)
    (replaces : ∀ path text, (path, text) ∈ writes es →
      replaced (files.disk.placeOf path) text) :
    files.disk.Changes grown replaced after.disk := by
  induction leads with
  | refl files => exact .refl _
  | @step files between after e es step rest ih =>
    obtain ⟨first, still⟩ := step.changes open_
      (fun config given => opens config (List.mem_filterMap.mpr ⟨e, by simp, given⟩))
      (fun path text given => replaces path text (List.mem_filterMap.mpr ⟨e, by simp, given⟩))
    refine first.trans (ih ?_ ?_ ?_)
    · intro config kept place isLog
      exact still config kept place ((isLog_of_changes first).mp isLog)
    · intro config given place isLog
      obtain ⟨e', found, known⟩ := List.mem_filterMap.mp given
      exact opens config (List.mem_filterMap.mpr ⟨e', by simp [found], known⟩) place
        ((isLog_of_changes first).mp isLog)
    · intro path text given
      obtain ⟨e', found, known⟩ := List.mem_filterMap.mp given
      rw [first.placeOf]
      exact replaces path text (List.mem_filterMap.mpr ⟨e', by simp [found], known⟩)

end Files

def World.files (world : World) : Files := ⟨world.disk, world.logFile⟩

theorem World.logged_step (world : World) (config : LogConfig) :
    Files.Step world.files ⟨.startLog config, (world.logged config).1⟩
      (world.logged config).2.files := by
  unfold logged
  split
  · rename_i unfiled
    exact .unfiled (by simpa [LogConfig.filePath?] using unfiled)
  · rename_i path file
    split
    · rename_i disk opened
      exact .opened file opened
    · rename_i fault _
      exact .unopened fault rfl fun _ => rfl

theorem World.noted_step (world : World) (entry : LogEntry) :
    Files.Step world.files ⟨.log entry, ()⟩ (world.noted entry).files := by
  unfold noted
  split
  · unfold files recorded
    cases opened : world.logFile with
    | none => exact .lost
    | some config =>
      rw [Option.bind_some]
      split
      · exact .lost
      · rename_i path file
        cases appended : world.disk.append path (fileLine world.clock entry ++ "\n") with
        | ok disk => exact .recorded file appended
        | error fault => exact .lost
  · exact .lost

theorem World.answer_step (world : World) (q : Question) :
    Files.Step world.files ⟨q, (world.answer q).1⟩ (world.answer q).2.files := by
  cases q with
  | print | complain | readLine | environment | now => exact .spared trivial
  | exchange request =>
    have same : (world.answer (.exchange request)).2.files = world.files := by
      unfold answer
      dsimp only
      split <;> rfl
    rw [same]
    exact .spared trivial
  | file question => exact .file question
  | closeLogFile => exact .closed
  | startLog config => exact world.logged_step config
  | log entry => exact world.noted_step entry

/-- A run in a world is one of the program, and leads from the files of the world to those after. -/
theorem World.run_leads {α : Type} (p : Program α) (world : World) :
    ∃ es, p.Runs es ((World.run p).run world).1 ∧
      Files.Leads world.files es ((World.run p).run world).2.files := by
  induction p generalizing world with
  | done a => exact ⟨[], .done a, .refl _⟩
  | ask q next ih =>
    obtain ⟨es, runs, leads⟩ := ih (world.answer q).1 (world.answer q).2
    exact ⟨_, .ask _ runs, .step (world.answer_step q) leads⟩

end FleetRollout.CommandLine
