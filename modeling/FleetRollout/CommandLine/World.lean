import FleetRollout.CommandLine.Session
import FleetRollout.Storage.Disk

/-! The world around a run as a value: a disk, an environment, a clock that stands still, input, and
a network. A run in it is a function. -/
namespace FleetRollout.CommandLine

/-- What surrounds a run, and what it has put out so far. -/
structure World where
  disk : Storage.Disk := {}
  environment : Dict String := .empty
  clock : Instant
  /-- The input that is not yet read. -/
  input : List Char := []
  /-- What becomes of a request. -/
  network : Http.Request → Except HttpFault Http.Response := fun _ => .error .unreachable
  printed : String := ""
  complained : String := ""
  /-- The requests that reached a server. -/
  requests : List Http.Request := []
  /-- How the log is kept, once it is started. -/
  logging : Option LogConfig := none
  /-- How the log file is kept while it is open. -/
  logFile : Option LogConfig := none
  log : List LogEntry := []

namespace World

/-- The next line of the input, with its end, and the world after it is read. -/
def line (world : World) : String × World :=
  let text := world.input.takeWhile (· ≠ '\n')
  let rest := world.input.drop text.length
  (String.ofList (text ++ rest.take 1), { world with input := rest.drop 1 })

/-- Starts the log, with the file of the day if there is to be one. -/
def logged (world : World) (config : LogConfig) : Except FileFault Unit × World :=
  match config.filePath? world.clock with
  | none => (.ok (), { world with logging := some config })
  | some path =>
    match world.disk.openLog path with
    | .ok disk => (.ok (), { world with disk, logging := some config, logFile := some config })
    | .error fault => (.error fault, world)

/-- The disk with a line at the end of the log file. What cannot be written is lost. -/
def recorded (world : World) (line : String) : Storage.Disk :=
  match world.logFile.bind fun config => config.filePath? world.clock with
  | none => world.disk
  | some path => (world.disk.append path (line ++ "\n")).toOption.getD world.disk

def noted (world : World) (entry : LogEntry) : World :=
  if world.logging.any fun config => entry.level.passes config.level then
    { world with log := world.log ++ [entry], disk := world.recorded (fileLine world.clock entry) }
  else world

def answer (world : World) : (q : Question) → q.Answer × World
  | .print text => ((), { world with printed := world.printed ++ text })
  | .complain text => ((), { world with complained := world.complained ++ text })
  | .readLine => world.line
  | .environment name => (world.environment.get? name, world)
  | .now => (world.clock, world)
  | .file question =>
    let (answer, disk) := world.disk.answer question
    (answer, { world with disk := disk })
  | .startLog config => world.logged config
  | .log entry => ((), world.noted entry)
  | .closeLogFile => ((), { world with logFile := none })
  | .exchange request =>
    let outcome := world.network request
    match outcome with
    | .error .unreachable => (outcome, world)
    | _ => (outcome, { world with requests := world.requests ++ [request] })

def run {α : Type} (p : Program α) : StateM World α :=
  Dialogue.interpret (I := interface) (m := StateM World) (fun q world => answer world q) p

end World
end FleetRollout.CommandLine
