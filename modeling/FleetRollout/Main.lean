import FleetRollout.CommandLine.Session
import FleetRollout.Http.Message
import Std.Async.DNS
import Std.Async.TCP
import Std.Time.DateTime.Timestamp

/-! The program. It runs a session with the files, the terminal and the network of this machine;
connections are plain, so a host that wants encrypted ones cannot be reached. -/
namespace FleetRollout.CommandLine
open Std.Async Std.Net

def fileFault : IO.Error → FileFault
  | .noFileOrDirectory .. => .notFound
  | .alreadyExists _ code details | .otherError code details | .permissionDenied _ code details
  | .inappropriateType _ code details | .resourceExhausted _ code details
  | .unsatisfiedConstraints code details | .invalidArgument _ code details =>
    .other (details ++ " (os error " ++ toString code ++ ")")
  | e => .other (toString e)

/-- The result of an action on files, or why it failed. -/
def attempt (action : IO α) : IO (Except FileFault α) := do
  match ← action.toBaseIO with
  | .ok result => return .ok result
  | .error e => return .error (fileFault e)

def makeParent (path : String) : IO Unit := do
  let parent := Storage.parentPath path
  unless parent.isEmpty do IO.FS.createDirAll parent

def answerFile : (q : Storage.Question) → IO q.Answer
  | .examine path => attempt do
    let _ ← IO.FS.realPath path
  | .read path => attempt (IO.FS.readFile path)
  | .write path text => attempt do
    makeParent path
    IO.FS.writeFile path text

def clockTime : IO Instant := do
  let sinceEpoch := (← Std.Time.Timestamp.now).val
  return (Instant.ofParts? sinceEpoch.second.val sinceEpoch.nano.val.toNat).getD .epoch

def addresses (host : String) (port : UInt16) : IO (List IPAddr) := do
  let bare := String.ofList (host.toList.filter fun c => c ≠ '[' && c ≠ ']')
  match IPv4Addr.ofString host, IPv6Addr.ofString bare with
  | some address, _ => return [.v4 address]
  | none, some address => return [.v6 address]
  | none, none => return (← (DNS.getAddrInfo host (toString port)).block).toList

def socketAddress (port : UInt16) : IPAddr → SocketAddress
  | .v4 address => .v4 ⟨address, port⟩
  | .v6 address => .v6 ⟨address, port⟩

def connect (port : UInt16) : List IPAddr → IO TCP.Socket.Client
  | [] => throw (IO.userError "no address")
  | address :: rest => do
    let client ← TCP.Socket.Client.mk
    match ← (client.connect (socketAddress port address)).block.toBaseIO with
    | .ok () => return client
    | .error e => if rest.isEmpty then throw e else connect port rest

/-- Receives bytes until they make up a response. -/
partial def receive (client : TCP.Socket.Client) (bytes : List UInt8) :
    IO (Except HttpFault Http.Response) := do
  let more ← (client.recv? 65536).block
  let bytes := bytes ++ (more.getD .empty).toList
  match Http.Response.ofBytes more.isNone bytes with
  | .complete response _ => return .ok response
  | .malformed => return .error .garbled
  | .incomplete => if more.isNone then return .error .garbled else receive client bytes

def plainPort? (url : Http.Url) (authority : Http.Authority) : Option UInt16 :=
  if url.scheme = "http".toList then some (.ofNat (authority.port.getD 80)) else none

def exchange (request : Http.Request) : IO (Except HttpFault Http.Response) := do
  let some authority := request.url.authority | return .error .unreachable
  let some port := plainPort? request.url authority | return .error .unreachable
  let exchanged : IO (Except HttpFault Http.Response) := do
    let client ← connect port (← addresses (String.ofList authority.host) port)
    (client.send request.bytes.toByteArray).block
    receive client []
  match ← exchanged.toBaseIO with
  | .ok result => return result
  | .error _ => return .error .unreachable

/-- How the log is kept, and whether its file is still written. -/
structure Logging where
  config : LogConfig
  toFile : Bool

/-- Opens a file to append to. Its directory is made only if that fails at first. -/
def openAppending (path : String) : IO IO.FS.Handle := do
  match ← (IO.FS.Handle.mk path .append).toBaseIO with
  | .ok handle => return handle
  | .error _ =>
    makeParent path
    IO.FS.Handle.mk path .append

/-- Writes an entry to the error output, and to the file of the day if there is one. -/
def writeLog (logging : Logging) (entry : LogEntry) : IO Unit := do
  let now ← clockTime
  (← IO.getStderr).putStr (logging.config.line now entry ++ "\n")
  if logging.toFile then
    if let some path := logging.config.filePath? now then
      let _ ← attempt do (← openAppending path).putStr (fileLine now entry ++ "\n")

def openLog (config : LogConfig) : IO Unit := do
  if let some path := config.filePath? (← clockTime) then
    let _ ← openAppending path

def answerRun : (q : Question) → StateT (Option Logging) IO q.Answer
  | .print text => do
    let output ← IO.getStdout
    output.putStr text
    output.flush
  | .complain text => do (← IO.getStderr).putStr text
  | .readLine => do (← IO.getStdin).getLine
  | .environment name => IO.getEnv name
  | .now => clockTime
  | .file question => answerFile question
  | .startLog config => do
    let opened ← attempt (openLog config)
    if opened.isOk then set (some (⟨config, true⟩ : Logging))
    return opened
  | .log entry => do
    if let some logging ← get then
      if entry.level.passes logging.config.level then writeLog logging entry
  | .closeLogFile => modify fun logging => logging.map fun l => { l with toFile := false }
  | .exchange request => exchange request

end FleetRollout.CommandLine

open FleetRollout in
def main (arguments : List String) : IO UInt32 := do
  let run := Dialogue.interpret (I := CommandLine.interface)
    (m := StateT (Option CommandLine.Logging) IO) (fun q => CommandLine.answerRun q)
    (CommandLine.program Http.Url.join? arguments)
  let (exit, _) ← run none
  return exit.code
