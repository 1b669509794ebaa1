import FleetRollout.Rollout.Pattern
import FleetRollout.Selection.Target
import FleetRollout.Text.Numeral

/-! Command line arguments: `--key=value` and `--flag`, and what they say of the deployment to
create. -/
namespace FleetRollout.CommandLine

open Text

/-- The key and value that an argument defines. One with an equals sign defines what stands before
the first one, without leading dashes; a flag with two dashes is `true`; others define nothing. -/
def definition? (argument : String) : Option (String × String) :=
  let cs := argument.toList
  let key (text : List Char) : String := String.ofList (trimStartOf '-' text)
  match cut '=' cs with
  | some (before, after) => some (key before, String.ofList after)
  | none =>
    match cs with
    | '-' :: '-' :: _ => some (key cs, "true")
    | _ => none

/-- The values that arguments define, by key; the last definition of a key holds. -/
def parse (arguments : List String) : Dict String := .ofList (arguments.filterMap definition?)

structure DeployArguments where
  settingsPath : Option String := none
  configDirectory : Option String := none
  logDirectory : Option String := none
  release : String
  target : Target
  phases : Option (List Phase) := none
  /-- Whether the phases of the last deployment in phases are to be used again. -/
  usePreviousPhases : Bool := false
  retries : Option UInt32 := none
  saveRetries : Bool := false
  maxDevices : Option UInt64 := none
  force : Bool := false
  delta : Bool := false
  dryRun : Bool := false
  yes : Bool := false
deriving DecidableEq, Repr

/-- Whether a flag is set; any value but `false` sets it. -/
def flag (arguments : Dict String) (key : String) : Bool :=
  match arguments.get? key with
  | some value => value ≠ "false"
  | none => false

def number (read : List Char → Option α) (arguments : Dict String) (key : String) :
    Except DeployError (Option α) :=
  match arguments.get? key with
  | none => .ok none
  | some value =>
    match read value.toList with
    | some n => .ok (some n)
    | none => .error (.validation (.numberExpected key value))

/-- The device ids in a list with commas, trimmed, empty ones left out. -/
def deviceIds (text : String) : List DeviceId :=
  ((pieces ',' text.toList).map fun id => String.ofList (trim id)).filter fun id => !id.isEmpty

def releaseArgument (arguments : Dict String) : Except DeployError String :=
  match arguments.get? "release" with
  | some name => if name.isEmpty then .error (.validation .releaseRequired) else .ok name
  | none => .error (.validation .releaseRequired)

/-- The target: exactly one of the four ways to name devices has to be used. -/
def targetArgument (arguments : Dict String) : Except DeployError Target :=
  let ids := match arguments.get? "devices" with
    | some text => deviceIds text
    | none => []
  let group := arguments.get? "group"
  let all := flag arguments "all-devices"
  let filter : Option SavedFilter := (arguments.get? "filter-id").map fun id =>
    ⟨id, (arguments.get? "filter-name").getD id⟩
  let chosen := [!ids.isEmpty, group.isSome, all, filter.isSome].count true
  if chosen ≠ 1 then .error (.validation .oneTargetRequired)
  else .ok (if all then .allDevices else Target.ofFields ids group filter)

def asksForPrevious (arguments : Dict String) : Bool := arguments.get? "phases" = some "previous"

def phasesArgument (arguments : Dict String) : Except DeployError (Option (List Phase)) :=
  match arguments.get? "phases" with
  | some pattern =>
    if asksForPrevious arguments then .ok none
    else (Rollout.parsePattern pattern).map some
  | none => .ok none

namespace DeployArguments

def ofValues (arguments : Dict String) : Except DeployError DeployArguments := do
  let release ← releaseArgument arguments
  let target ← targetArgument arguments
  let phases ← phasesArgument arguments
  let retries ← number readUInt32 arguments "retries"
  let maxDevices ← number readUInt64 arguments "max-devices"
  return {
    settingsPath := arguments.get? "settings"
    configDirectory := arguments.get? "config-dir"
    logDirectory := arguments.get? "log-dir"
    release, target, phases, retries, maxDevices
    usePreviousPhases := asksForPrevious arguments
    saveRetries := flag arguments "save-retries"
    force := flag arguments "force"
    delta := flag arguments "delta"
    dryRun := flag arguments "dry-run"
    yes := flag arguments "yes" }

end DeployArguments
end FleetRollout.CommandLine
