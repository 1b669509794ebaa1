import FleetRollout.Proofs.CommandLine.Traffic
import FleetRollout.Proofs.Wizard.Capabilities

/-! A run up to the point where it previews or submits: the settings are loaded, and a wizard gets
the selection that the arguments ask for. Until then a run only reads. -/
namespace FleetRollout.CommandLine
variable {es later : List (Dialogue.Exchange interface)}

structure Prepared where
  client : Http.Client
  settings : Settings
  wizard : Wizard

def DeployArguments.path (args : DeployArguments) : String :=
  settingsPathOf args.settingsPath args.configDirectory

/-- The client that settings and environment make, with the wizard that it serves. -/
def setUp (args : DeployArguments) (settings : Settings) : Attempt Prepared := do
  beginLog (logConfigOf args settings)
  let token ← check (settings.token (← perform (environment tokenVariable)))
  let client ← check (Http.Client.ofBase settings.backend.baseUrl token)
  perform (log .info ("Using management API at " ++ client.base.toText))
  return ⟨client, settings, ← prepare args client settings.wizardOptions⟩

def beginning (args : DeployArguments) : Attempt Prepared := do
  let settings ← checkDuring ("reading " ++ args.path)
    (← perform (onFiles (Storage.loadSettingsOrDefault args.path)))
  setUp args settings

theorem run_eq (args : DeployArguments) :
    run args = beginning args >>= fun p => deploy args p.client args.path p.settings p.wizard := by
  simp only [run, beginning, setUp, bind_assoc, pure_bind, DeployArguments.path]

def settingsRead? : Dialogue.Exchange interface → Option (Except DeployError Settings)
  | ⟨.file (.read _), .ok text⟩ => some (Settings.ofText text)
  | ⟨.file (.read _), .error fault⟩ => some (.error (.io fault))
  | _ => none

def settingsRead (es : List (Dialogue.Exchange interface)) : List (Except DeployError Settings) :=
  es.filterMap settingsRead?

@[simp] theorem settingsRead_append :
    settingsRead (es ++ later) = settingsRead es ++ settingsRead later := List.filterMap_append

/-- The settings that a run goes by: those that it read, or the defaults without a file. -/
def Loads (es : List (Dialogue.Exchange interface)) (settings : Settings) : Prop :=
  settingsRead es = [.ok settings] ∨ settingsRead es = [] ∧ settings = {}

theorem relayed_onFiles {is : List (Dialogue.Exchange Storage.interface)}
    (relayed : Dialogue.Relayed (I := Storage.interface) (J := interface)
      (fun q => .query (I := interface) (.file q)) is es) :
    es = is.map fun e => ⟨.file e.question, e.answer⟩ := by
  induction relayed with
  | nil => rfl
  | cons asked rest ih =>
    obtain rfl := Dialogue.runs_query.mp asked
    rw [ih]
    rfl

theorem fileExists_runs {path : String} {is : List (Dialogue.Exchange Storage.interface)}
    {present : Bool} (runs : (Storage.fileExists path).Runs is present) :
    ∃ answer, is = [⟨.examine path, answer⟩] ∧ present = answer.isOk := by
  obtain ⟨first, answer, rest, asked, ended, rfl⟩ := Dialogue.runs_bind.mp runs
  obtain rfl := Dialogue.runs_query.mp asked
  obtain ⟨rfl, rfl⟩ := Dialogue.runs_done.mp ended
  exact ⟨answer, rfl, rfl⟩

theorem load_runs {path : String} {result : Except DeployError Settings}
    (runs : (onFiles (Storage.loadSettingsOrDefault path)).Runs es result) :
    (∀ e ∈ es, e.question.Spares) ∧
      (settingsRead es = [] ∧ result = .ok {} ∨ settingsRead es = [result]) := by
  obtain ⟨is, inner, relayed⟩ := Dialogue.Runs.relayed runs
  obtain rfl := relayed_onFiles relayed
  obtain ⟨first, present, rest, examined, loads, rfl⟩ := Dialogue.runs_bind.mp inner
  obtain ⟨found, rfl, _⟩ := fileExists_runs examined
  cases present with
  | false =>
    obtain ⟨rfl, rfl⟩ := Dialogue.runs_done.mp loads
    exact ⟨by simp [Question.Spares], .inl ⟨rfl, rfl⟩⟩
  | true =>
    obtain ⟨second, answer, last, asked, ended, rfl⟩ := Dialogue.runs_bind.mp loads
    obtain rfl := Dialogue.runs_query.mp asked
    cases answer with
    | ok text =>
      obtain ⟨rfl, rfl⟩ := Dialogue.runs_done.mp ended
      exact ⟨by simp [Question.Spares], .inr rfl⟩
    | error fault =>
      obtain ⟨rfl, rfl⟩ := Dialogue.runs_done.mp ended
      exact ⟨by simp [Question.Spares], .inr rfl⟩

section Keeping
variable {P : Wizard → Prop} {w : Wizard}
  (keeps : ∀ {w w' : Wizard} {operation : Wizard.Operation} {reply : Wizard.Reply},
    (∀ controlMap, operation ≠ .setUpdateControlMap controlMap) →
    Wizard.Effect w operation reply w' → P w → P w')
include keeps

theorem yields_during {p : Wizard.Program β} {after : β → Wizard} {client : Http.Client}
    {operation : Wizard.Operation} {reply : β → Wizard.Reply}
    (effects : p.Always fun r => Wizard.Effect w operation (reply r) (after r))
    (plain : ∀ controlMap, operation ≠ .setUpdateControlMap controlMap) (holds : P w) :
    Yields (fun r => P (after r)) (perform (inWizard client p)) := by
  apply yields_perform
  apply Dialogue.Always.relay
  exact effects.imp fun _ effect => keeps plain effect holds

theorem yields_change {r : Except DeployError Unit × Wizard} (operation : Wizard.Operation)
    (performs : w.perform operation = .done (r.map .ofUnit id))
    (plain : ∀ controlMap, operation ≠ .setUpdateControlMap controlMap) (holds : P w) :
    Yields P (changed r) := by
  have effect := Wizard.perform_effect w operation
  rw [performs] at effect
  apply yields_changed
  intro _
  exact keeps plain effect holds

theorem yields_refreshed {client : Http.Client} (needed : Bool) (holds : P w) :
    Yields P (perform (inWizard client (if needed then w.refreshed else return w))) := by
  apply yields_perform
  apply Dialogue.Always.relay
  cases needed with
  | false => exact holds
  | true =>
    apply Dialogue.always_bind.mpr
    exact (Wizard.refreshCount_effect w).imp fun _ effect => keeps (by simp) effect holds

theorem yields_phases (args : DeployArguments) (holds : P w) :
    Yields P (changed (if args.usePreviousPhases then w.usePreviousPhases
      else w.setPhases args.phases)) := by
  split
  · exact yields_change keeps .usePreviousPhases rfl (by simp) holds
  · exact yields_change keeps (.setPhases args.phases) rfl (by simp) holds

theorem yields_retries (args : DeployArguments) (holds : P w) :
    Yields P (changed (match args.retries with
      | some retries => w.setRetries retries
      | none => (.ok (), w))) := by
  split
  · rename_i retries _
    exact yields_change keeps (.setRetries retries) rfl (by simp) holds
  · exact yields_changed fun _ => holds

/-- What operations keep holds of the wizard whose selection the arguments made. No argument gives
an update control map. -/
theorem prepare_yields (args : DeployArguments) (client : Http.Client)
    {options : Wizard.Options} (initial : P (.new options)) :
    Yields P (prepare args client options) := by
  have passes {β : Type} {r : Except DeployError β} : Yields (fun _ => True) (check r) :=
    yields_check fun _ _ => trivial
  unfold prepare
  refine (yields_during keeps (Wizard.open_effect _) (by simp) initial).bind ?_
  rintro ⟨opened, w⟩ holds
  refine passes.bind fun _ _ => ?_
  refine (yields_during keeps (Wizard.selectRelease_effect w _) (by simp) holds).bind ?_
  rintro ⟨selected, w⟩ holds
  refine passes.bind fun _ _ => ?_
  refine (yields_during keeps (Wizard.selectTarget_effect w _) (by simp) holds).bind ?_
  rintro ⟨targeted, w⟩ holds
  refine passes.bind fun ticket _ => ?_
  refine (yields_refreshed keeps ticket.isSome holds).bind fun w holds => ?_
  refine (yields_during keeps (Wizard.loadSelectedDevices_effect w) (by simp) holds).bind
    fun w holds => ?_
  refine (yields_phases keeps args holds).bind fun w holds => ?_
  refine (yields_retries keeps args holds).bind fun w holds => ?_
  refine (yields_change keeps (.setSaveRetriesDefault _) rfl (by simp) holds).bind
    fun w holds => ?_
  refine (yields_change keeps (.setMaxDevices _) rfl (by simp) holds).bind fun w holds => ?_
  refine (yields_change keeps (.setForceInstall _) rfl (by simp) holds).bind fun w holds => ?_
  exact yields_change keeps (.setDelta _) rfl (by simp) holds

end Keeping

theorem unmapped_settled {w : Wizard} (unmapped : w.selection.updateControlMap = none) :
    w.settled.selection.updateControlMap = none := by
  rw [Wizard.settled_selection]
  have chosen := w.selection.resolve_chosen w.fleet
  exact (congrArg Selection.updateControlMap chosen).trans unmapped

theorem unmapped_effect {w w' : Wizard} {operation : Wizard.Operation} {reply : Wizard.Reply}
    (plain : ∀ controlMap, operation ≠ .setUpdateControlMap controlMap)
    (effect : Wizard.Effect w operation reply w') (unmapped : w.selection.updateControlMap = none) :
    w'.selection.updateControlMap = none := by
  cases effect with
  | opened => exact unmapped_settled rfl
  | closed => rfl
  | targeted editable available settles =>
    rw [settles]
    apply unmapped_settled
    unfold Selection.setTarget
    split <;> exact unmapped
  | chosen editable choice =>
    cases operation with
    | setUpdateControlMap controlMap => exact absurd rfl (plain controlMap)
    | setRetries | setSaveRetriesDefault | setForceInstall | setDelta | setMaxDevices =>
      obtain rfl := Option.some.inj choice
      exact unmapped
    | _ => contradiction
  | accepted settles | devices settles | groups settles =>
    rw [settles]
    exact unmapped_settled unmapped
  | loaded | counted | refreshed => exact unmapped_settled unmapped
  | sent answer => rwa [Wizard.concluded_selection]
  | _ => exact unmapped

/-- Reads the environment and starts the log, beside asking the management API. -/
def Question.Connects : Question → Prop
  | .startLog _ | .environment _ => True
  | q => q.Consults

theorem Question.Connects.spares {q : Question} (connects : q.Connects) : q.Spares := by
  cases q with
  | startLog | environment => trivial
  | _ => exact Question.Consults.spares connects

theorem settingsRead_of_connects (connects : ∀ e ∈ es, e.question.Connects) :
    settingsRead es = [] := by
  apply List.filterMap_eq_nil_iff.mpr
  rintro ⟨q, answer⟩ found
  cases q with
  | file question => exact (connects _ found).elim
  | _ => rfl

theorem during_asks {p : Wizard.Program α} {client : Http.Client} {operation : Wizard.Operation}
    (asks : p.Asks operation.MayAsk) (other : ∀ confirmed clock, operation ≠ .submit confirmed clock) :
    (perform (inWizard client p)).run.Asks Question.Connects := by
  refine asks_perform ((inWizard_asks asks other).imp fun q consults => ?_)
  cases q with
  | exchange | log => exact consults
  | _ => contradiction

theorem refreshed_asks {client : Http.Client} (w : Wizard) (needed : Bool) :
    (perform (inWizard client (if needed then w.refreshed else return w))).run.Asks
      Question.Connects := by
  cases needed with
  | false => trivial
  | true => exact during_asks (w.refreshCount_asks.bind fun _ => trivial) (by simp)

theorem prepare_asks (args : DeployArguments) (client : Http.Client) (options : Wizard.Options) :
    (prepare args client options).run.Asks Question.Connects := by
  unfold prepare
  refine asks_then (during_asks (Wizard.open_asks _) (by simp)) fun ⟨opened, w⟩ => ?_
  refine asks_then trivial fun _ => ?_
  refine asks_then (during_asks (w.selectRelease_asks _) (by simp)) fun ⟨selected, w⟩ => ?_
  refine asks_then trivial fun _ => ?_
  refine asks_then (during_asks (w.selectTarget_asks _) (by simp)) fun ⟨targeted, w⟩ => ?_
  refine asks_then trivial fun ticket => ?_
  refine asks_then (refreshed_asks w ticket.isSome) fun w => ?_
  refine asks_then (during_asks w.loadSelectedDevices_asks (by simp)) fun w => ?_
  refine asks_then (asks_changed _) fun w => ?_
  refine asks_then (asks_changed _) fun w => ?_
  refine asks_then (asks_changed _) fun w => ?_
  refine asks_then (asks_changed _) fun w => ?_
  refine asks_then (asks_changed _) fun w => ?_
  exact asks_changed _

theorem beginLog_asks (config : LogConfig) : (beginLog config).run.Asks Question.Connects :=
  asks_then (asks_perform ⟨trivial, fun _ => trivial⟩) fun _ => trivial

theorem setUp_asks (args : DeployArguments) (settings : Settings) :
    (setUp args settings).run.Asks Question.Connects := by
  unfold setUp
  refine asks_then (beginLog_asks _) fun _ => ?_
  refine asks_then (asks_perform ⟨trivial, fun _ => trivial⟩) fun token => ?_
  refine asks_then trivial fun token => ?_
  refine asks_then trivial fun client => ?_
  refine asks_then (asks_perform ⟨trivial, fun _ => trivial⟩) fun _ => ?_
  exact asks_then (prepare_asks _ _ _) fun _ => trivial

/-- What a run goes by and what it works on once the selection is made. -/
structure Prepared.Fits (p : Prepared) (settings : Settings) : Prop where
  loaded : p.settings = settings
  options : p.wizard.options = settings.wizardOptions
  unmapped : p.wizard.selection.updateControlMap = none

theorem setUp_yields (args : DeployArguments) (settings : Settings) :
    Yields (Prepared.Fits · settings) (setUp args settings) := by
  have passes {β : Type} {r : Except DeployError β} : Yields (fun _ => True) (check r) :=
    yields_check fun _ _ => trivial
  have performs {β : Type} {p : Program β} : Yields (fun _ => True) (perform p) :=
    yields_perform (Dialogue.always_iff.mpr fun _ _ _ => trivial)
  have logs {config : LogConfig} : Yields (fun _ => True) (beginLog config) :=
    Dialogue.always_iff.mpr fun _ _ _ _ _ => trivial
  unfold setUp
  refine logs.bind fun _ _ => ?_
  refine performs.bind fun _ _ => ?_
  refine passes.bind fun _ _ => ?_
  refine passes.bind fun client _ => ?_
  refine performs.bind fun _ _ => ?_
  have prepared : Yields (fun w => w.options = settings.wizardOptions ∧
      w.selection.updateControlMap = none) (prepare args client settings.wizardOptions) := by
    apply prepare_yields
    · rintro w w' operation reply plain effect ⟨options, unmapped⟩
      exact ⟨effect.options.trans options, unmapped_effect plain effect unmapped⟩
    · exact ⟨rfl, rfl⟩
  refine prepared.bind ?_
  rintro w ⟨options, unmapped⟩ _ ⟨⟩
  exact ⟨rfl, options, unmapped⟩

/-- A run reads its settings and then asks the management API what it has to know; it goes on only
with settings that could be read. -/
theorem beginning_runs {args : DeployArguments} {r : Except Failure Prepared}
    (runs : (beginning args).run.Runs es r) :
    (∀ e ∈ es, e.question.Spares) ∧
      (∀ e, .error e ∈ settingsRead es → ∃ failure, r = .error failure) ∧
      ∀ p, r = .ok p → ∃ settings, Loads es settings ∧ p.Fits settings := by
  obtain ⟨first, loaded, rest, loads, later, rfl⟩ := runs_perform_then.mp runs
  obtain ⟨spares, loading⟩ := load_runs loads
  obtain ⟨failure, refused, rfl, rfl⟩ | ⟨settings, known, connects⟩ := runs_done_then.mp later
  · simp only [List.append_nil]
    exact ⟨spares, fun _ _ => ⟨failure, rfl⟩, by simp⟩
  · obtain rfl : loaded = .ok settings := by
      cases loaded with
      | error e => contradiction
      | ok given =>
        obtain rfl := Except.ok.inj known
        rfl
    have asks := (setUp_asks args settings).exchanges connects
    have readLater := settingsRead_of_connects asks
    have loads : Loads (first ++ rest) settings := by
      rw [Loads, settingsRead_append, readLater, List.append_nil]
      obtain ⟨unread, usual⟩ | read := loading
      · exact .inr ⟨unread, Except.ok.inj usual⟩
      · exact .inl read
    refine ⟨?_, ?_, ?_⟩
    · intro e found
      obtain early | late := List.mem_append.mp found
      · exact spares e early
      · exact (asks e late).spares
    · intro e failed
      obtain read | ⟨unread, _⟩ := loads
      · rw [read] at failed
        simp at failed
      · rw [unread] at failed
        contradiction
    · intro p prepared
      exact ⟨settings, loads, Dialogue.always_iff.mp (setUp_yields args settings) _ _ connects p
        prepared⟩

end FleetRollout.CommandLine
