import FleetRollout.CommandLine.Arguments
import FleetRollout.CommandLine.Usage
import FleetRollout.Http.Redirect
import FleetRollout.Storage.File
import FleetRollout.Wizard.Operation

/-! A run of the program: from the arguments to the exit code, with all that it reads, prints,
writes and sends on the way. -/
namespace FleetRollout.CommandLine

/-- Which log entries are kept, and where. -/
structure LogConfig where
  level : LogLevel
  json : Bool
  /-- Where daily log files are written, if they are. -/
  directory : Option String
deriving DecidableEq, Repr

def LogConfig.filePath? (config : LogConfig) (now : Instant) : Option String :=
  config.directory.map fun directory =>
    Storage.joinPath directory ("fleetdeploy.log." ++ String.ofList now.dateText)

def fileLine (now : Instant) (entry : LogEntry) : String :=
  now.toText ++ " " ++ entry.level.label ++ " " ++ entry.message

/-- An entry as a line of the error output. -/
def LogConfig.line (config : LogConfig) (now : Instant) (entry : LogEntry) : String :=
  if config.json then
    (Json.obj [("timestamp", now.toText), ("level", entry.level.label),
      ("fields", .obj [("message", entry.message)])]).compact
  else fileLine now entry

inductive Question where
  | print (text : String)
  /-- Prints to the error output. -/
  | complain (text : String)
  /-- The next line of the input; empty at its end. -/
  | readLine
  | environment (name : String)
  | now
  | file (question : Storage.Question)
  /-- Starts the log, and opens the file of the day if there is to be one. Entries that are logged
  before this are lost. -/
  | startLog (config : LogConfig)
  | log (entry : LogEntry)
  /-- Entries that are logged after this do not reach the file any more. -/
  | closeLogFile
  | exchange (request : Http.Request)

def Question.Answer : Question → Type
  | print _ => Unit
  | complain _ => Unit
  | readLine => String
  | environment _ => Option String
  | now => Instant
  | file question => question.Answer
  | startLog _ => Except FileFault Unit
  | log _ => Unit
  | closeLogFile => Unit
  | exchange _ => Except HttpFault Http.Response

def interface : Interface := ⟨Question, Question.Answer⟩

abbrev Program (α : Type) := Dialogue interface α

def print (text : String) : Program Unit := .query (I := interface) (.print text)

def complain (text : String) : Program Unit := .query (I := interface) (.complain text)

def readLine : Program String := .query (I := interface) .readLine

def environment (name : String) : Program (Option String) :=
  .query (I := interface) (.environment name)

def now : Program Instant := .query (I := interface) .now

def readings : Program Wizard.Readings := do
  return ⟨← now, ← now⟩

def startLog (config : LogConfig) : Program (Except FileFault Unit) :=
  .query (I := interface) (.startLog config)

def log (level : LogLevel) (message : String) : Program Unit :=
  .query (I := interface) (.log ⟨level, message⟩)

def closeLogFile : Program Unit := .query (I := interface) .closeLogFile

def onFiles (p : Storage.Program α) : Program α :=
  Dialogue.relay (I := Storage.interface) (fun q => .query (I := interface) (.file q)) p

/-- What a part that talks to the API asks of a run. -/
def answerHttp : (q : Http.Question) → Program q.Answer
  | .log entry => .query (I := interface) (.log entry)
  | .exchange request => .query (I := interface) (.exchange request)

def onHttp (p : Http.Program α) : Program α :=
  Dialogue.relay (I := Http.interface) (fun q => answerHttp q) p

/-- What a wizard asks of a run. There is no tour on the command line. -/
def answerWizard (client : Http.Client) : (q : Wizard.Question) → Program q.Answer
  | .call c => onHttp (client.serve c)
  | .log entry => .query (I := interface) (.log entry)
  | .advance step => log .debug step.ignoredMessage
  | .tourIsComplete => .done true

def inWizard (client : Http.Client) (p : Wizard.Program α) : Program α :=
  Dialogue.relay (I := Wizard.interface) (fun q => answerWizard client q) p

inductive Failure where
  | error (e : DeployError)
  /-- The error came up while something was done. -/
  | during (activity : String) (e : DeployError)
  | alreadyThere (path : String)
  | incomplete (devices : UInt64)
  | notCreated (outcome : Wizard.Outcome)
  /-- The log file could not be opened, which is not provided for. -/
  | crashed (fault : FileFault)

def Failure.message : Failure → String
  | error e => e.chain
  | during activity e => activity ++ ": " ++ e.chain
  | alreadyThere path => path ++ " already exists"
  | incomplete devices =>
    "deployment is incomplete: " ++ toString devices.toNat
      ++ " device(s) resolved, check the target and phases"
  | notCreated outcome => "deployment was not created: " ++ outcome.label
  | crashed fault => "initializing rolling file appender failed: " ++ fault.message

/-- A part of a run that may end it. -/
abbrev Attempt (α : Type) := ExceptT Failure (Dialogue interface) α

/-- A part of a run that does not end it. -/
def perform (p : Program α) : Attempt α := ExceptT.lift p

/-- A value, or the end of the run. -/
def check (r : Except DeployError α) : Attempt α := ExceptT.mk (.done (r.mapError .error))

def changed (r : Except DeployError Unit × Wizard) : Attempt Wizard := do
  check r.1
  return r.2

def checkDuring (activity : String) (r : Except DeployError α) : Attempt α :=
  ExceptT.mk (.done (r.mapError (.during activity)))

def layoutOf (configDirectory : Option String) : Storage.Layout :=
  match configDirectory with
  | some directory => ⟨directory⟩
  | none => {}

def settingsPathOf (settingsPath configDirectory : Option String) : String :=
  settingsPath.getD (layoutOf configDirectory).settingsFile

/-- Writes a settings file with all defaults, unless something is in its place. -/
def initSettings (arguments : Dict String) : Attempt Unit := do
  let path := settingsPathOf (arguments.get? "settings") (arguments.get? "config-dir")
  if ← perform (onFiles (Storage.fileExists path)) then throw (.alreadyThere path)
  checkDuring ("writing " ++ path) (← perform (onFiles (Storage.saveSettings path {})))
  perform (print ("Settings written to " ++ path ++ "\n"))

def confirm (message : String) : Program Bool := do
  print (message ++ " [y/N] ")
  let answer ← readLine
  return ["y", "yes"].contains (Text.trimmed answer).toLower

def logConfigOf (args : DeployArguments) (settings : Settings) : LogConfig :=
  let daily := if settings.logToFile then some (layoutOf args.configDirectory).logsDirectory else none
  { level := settings.logLevel, json := settings.logJson, directory := args.logDirectory <|> daily }

/-- Opens a wizard and makes the selection that the arguments ask for. -/
def prepare (args : DeployArguments) (client : Http.Client) (options : Wizard.Options) :
    Attempt Wizard := do
  let w := Wizard.new options
  let (opened, w) ← perform (inWizard client w.open)
  check opened
  let (selected, w) ← perform (inWizard client (w.selectRelease args.release))
  check selected
  let (targeted, w) ← perform (inWizard client (w.selectTarget args.target))
  let ticket ← check targeted
  let w ← perform (inWizard client (if ticket.isSome then w.refreshed else return w))
  let w ← perform (inWizard client w.loadSelectedDevices)
  let w ← changed (if args.usePreviousPhases then w.usePreviousPhases else w.setPhases args.phases)
  let w ← changed (match args.retries with
    | some retries => w.setRetries retries
    | none => (.ok (), w))
  let w ← changed (w.setSaveRetriesDefault args.saveRetries)
  let w ← changed (w.setMaxDevices args.maxDevices)
  let w ← changed (w.setForceInstall args.force)
  changed (w.setDelta args.delta)

def createdMessage (selection : Selection) (created : CreatedDeployment) : String :=
  let release := match selection.release with
    | some release => release.name
    | none => ""
  let id := match created.id with
    | some id => " [" ++ id ++ "]"
    | none => ""
  "Deployment created: " ++ release ++ " -> " ++ toString selection.resolvedDeviceCount.toNat
    ++ " device(s)" ++ id ++ "\n"

/-- Submits the selection. Where a confirmation is missing it is asked for, and nothing is sent
without it; the outcome is then absent. -/
def submitConfirmed (args : DeployArguments) (client : Http.Client) (w : Wizard) :
    Attempt (Option Wizard.Outcome × Wizard) := do
  let (result, w) ← perform do inWizard client (w.submit args.yes (← readings))
  match ← check result with
  | .needsConfirmation =>
    if ← perform (confirm w.confirmationMessage) then
      let (result, w) ← perform do inWizard client (w.submit true (← readings))
      return (some (← check result), w)
    else return (none, w)
  | outcome => return (some outcome, w)

def keepDefaults (path : String) (settings : Settings) (selection : Selection) : Program Unit := do
  let (changed, settings) := settings.remember selection
  if changed then
    match ← onFiles (Storage.saveSettings path settings) with
    | .ok () => return ()
    | .error e => log .warn ("Unable to save deployment defaults: " ++ e.message)

def deploy (args : DeployArguments) (client : Http.Client) (path : String) (settings : Settings)
    (w : Wizard) : Attempt Unit := do
  if args.dryRun then
    let request ← check (w.preview (← perform now))
    perform (print (request.toJson.pretty ++ "\n"))
  else
    if !w.isSubmittable (← perform now) then throw (.incomplete w.selection.resolvedDeviceCount)
    match ← submitConfirmed args client w with
    | (none, w) =>
      perform (print "Cancelled\n")
      let _ ← changed w.close
    | (some (.created created), w) =>
      perform (print (createdMessage w.selection created))
      perform (keepDefaults path settings w.selection)
      let _ ← changed w.close
    | (some outcome, _) => throw (.notCreated outcome)

def beginLog (config : LogConfig) : Attempt Unit := do
  ExceptT.mk (.done ((← perform (startLog config)).mapError .crashed))

def run (args : DeployArguments) : Attempt Unit := do
  let path := settingsPathOf args.settingsPath args.configDirectory
  let settings ←
    checkDuring ("reading " ++ path) (← perform (onFiles (Storage.loadSettingsOrDefault path)))
  beginLog (logConfigOf args settings)
  let token ← check (settings.token (← perform (environment tokenVariable)))
  let client ← check (Http.Client.ofBase settings.backend.baseUrl token)
  perform (log .info ("Using management API at " ++ client.base.toText))
  deploy args client path settings (← prepare args client settings.wizardOptions)

inductive Exit where
  | success
  | failure
  /-- The arguments make no sense. -/
  | misuse
  | crash
deriving DecidableEq, Repr

def Exit.code : Exit → UInt32
  | success => 0
  | failure => 1
  | misuse => 2
  | crash => 101

def report (failure : Failure) : Program Exit := do
  complain ("error: " ++ failure.message ++ "\n")
  return .failure

/-- What a run says at its end, when its log file is closed. What the runtime says of a crash is left
out. -/
def conclusion (ended : Except Failure Unit) : Program Exit := do
  closeLogFile
  match ended with
  | .ok () => return .success
  | .error (.crashed _) => return .crash
  | .error failure =>
    log .error failure.message
    report failure

def dispatch (arguments : Dict String) : Program Exit := do
  if arguments.contains "version" then
    print ((Version.toJson {}).pretty ++ "\n")
    return .success
  else if arguments.contains "help" || arguments.isEmpty then
    print (usage ++ "\n")
    return .success
  else if arguments.contains "init" then
    match ← (initSettings arguments).run with
    | .ok () => return .success
    | .error failure => report failure
  else
    match DeployArguments.ofValues arguments with
    | .error e =>
      complain (e.message ++ "\n\n" ++ usage ++ "\n")
      return .misuse
    | .ok args => conclusion (← (run args).run)

/-- A run that leaves it to its client to follow a request where responses lead. -/
def session (arguments : List String) : Program Exit := dispatch (parse arguments)

/-- What a question comes to if requests are followed. -/
def answerOnWire (locate : Http.Locating) : (q : Question) → Program q.Answer
  | .exchange request => onHttp (Http.follow locate Http.maxRedirections request)
  | q => .query (I := interface) q

def onWire (locate : Http.Locating) (p : Program α) : Program α :=
  Dialogue.relay (I := interface) (fun q => answerOnWire locate q) p

/-- The program, for a way to read the locations in responses. -/
def program (locate : Http.Locating) (arguments : List String) : Program Exit :=
  onWire locate (session arguments)

end FleetRollout.CommandLine
