import FleetRollout.Wizard.Basic

/-! Settings: how to reach the management API, what the tenant may do, how to log, and the defaults
that a created deployment leaves behind. Every field has a default, so a settings file may leave
out any of them. -/
namespace FleetRollout

open Json (Reader Record)

def LogLevel.read : Reader LogLevel := fun level s => (Reader.string level s).bind ofName?

structure BackendSettings where
  baseUrl : String := "http://localhost:8080"
  /-- The personal access token. -/
  token : Option String := none
deriving DecidableEq, Repr

namespace BackendSettings

def toJson (b : BackendSettings) : Json :=
  .obj [("base_url", .str b.baseUrl), ("token", Json.orNull .str b.token)]

def read : Reader BackendSettings := fun level s => do
  let r ← Record.read ["base_url", "token"] level s
  let usual : BackendSettings := {}
  return { baseUrl := ← r.withDefault "base_url" usual.baseUrl .string
           token := ← r.optional "token" .string }

/-- A description that does not give the token away. -/
def description (b : BackendSettings) : String :=
  let token := if b.token.isSome then "Some(" ++ Text.quoted "<redacted>" ++ ")" else "None"
  "BackendSettings \x7b base_url: " ++ Text.quoted b.baseUrl ++ ", token: " ++ token ++ " \x7d"

end BackendSettings

structure Capabilities where
  canRetry : Bool := false
  canSchedule : Bool := false
  hasFullFiltering : Bool := false
deriving DecidableEq, Repr

namespace Capabilities

def toJson (c : Capabilities) : Json :=
  .obj [("can_retry", .bool c.canRetry), ("can_schedule", .bool c.canSchedule),
    ("has_full_filtering", .bool c.hasFullFiltering)]

def read : Reader Capabilities := fun level s => do
  let r ← Record.read ["can_retry", "can_schedule", "has_full_filtering"] level s
  return { canRetry := ← r.withDefault "can_retry" false .bool
           canSchedule := ← r.withDefault "can_schedule" false .bool
           hasFullFiltering := ← r.withDefault "has_full_filtering" false .bool }

end Capabilities

structure Settings where
  logLevel : LogLevel := .info
  /-- Whether log entries are written as JSON. -/
  logJson : Bool := false
  /-- Whether there are daily log files in the configuration directory. -/
  logToFile : Bool := false
  backend : BackendSettings := {}
  capabilities : Capabilities := {}
  /-- Whether a deployment has to be confirmed. -/
  needsConfirmation : Bool := false
  /-- The retries of a new deployment. -/
  defaultRetries : UInt32 := 0
  /-- The phases of the last deployment in phases. -/
  previousPhases : Option (List Phase) := none
  /-- The number of group counts that are kept. -/
  groupCountCapacity : UInt64 := .ofNat GroupCounts.usualCapacity
deriving DecidableEq, Repr, Inhabited

namespace Settings

def toJson (s : Settings) : Json :=
  .obj [("log_level", .str s.logLevel.name), ("log_json", .bool s.logJson),
    ("log_to_file", .bool s.logToFile), ("backend", s.backend.toJson),
    ("capabilities", s.capabilities.toJson),
    ("needs_deployment_confirmation", .bool s.needsConfirmation),
    ("default_retries", .nat s.defaultRetries.toNat),
    ("previous_phases", Json.orNull phasesToJson s.previousPhases),
    ("group_count_cache_capacity", .nat s.groupCountCapacity.toNat)]

def fieldNames : List String :=
  ["log_level", "log_json", "log_to_file", "backend", "capabilities",
    "needs_deployment_confirmation", "default_retries", "previous_phases",
    "group_count_cache_capacity"]

/-- A field that is left out has the default of its type, or one of its own. -/
def read : Reader Settings := fun level s => do
  let r ← Record.read fieldNames level s
  return {
    logLevel := ← r.withDefault "log_level" .info LogLevel.read
    logJson := ← r.withDefault "log_json" false .bool
    logToFile := ← r.withDefault "log_to_file" false .bool
    backend := ← r.withDefault "backend" {} BackendSettings.read
    capabilities := ← r.withDefault "capabilities" {} Capabilities.read
    needsConfirmation := ← r.withDefault "needs_deployment_confirmation" false .bool
    defaultRetries := ← r.withDefault "default_retries" 0 .uint32
    previousPhases := ← r.optional "previous_phases" (.list Phase.read)
    groupCountCapacity :=
      ← r.withDefault "group_count_cache_capacity" (.ofNat GroupCounts.usualCapacity) .uint64 }

def toText (s : Settings) : String := s.toJson.pretty

def ofText (text : String) : Except DeployError Settings :=
  match read.ofString? text with
  | some s => .ok s
  | none => .error .json

/-- The API token. One from the environment wins over the one in the settings, unless it is
blank. -/
def token (s : Settings) (environment : Option String) : Except DeployError String :=
  match (environment.filter fun t => !(Text.trimmed t).isEmpty) <|> s.backend.token with
  | some token => .ok token
  | none => .error (.config .noToken)

/-- Keeps the retries of a deployment as the default, if that is wanted and the tenant may ask for
retries, and tells whether that changes it. -/
def rememberRetries (s : Settings) (selection : Selection) : Bool × Settings :=
  if selection.saveRetriesDefault && s.capabilities.canRetry
      && s.defaultRetries ≠ selection.retries then
    (true, { s with defaultRetries := selection.retries })
  else (false, s)

/-- Keeps the phases of a rollout in more than one phase, without their starts, and tells whether
they are others than before. -/
def rememberPhases (s : Settings) (selection : Selection) : Bool × Settings :=
  match selection.phases.filter fun phases => 1 < phases.length with
  | some phases =>
    let preset := phases.map Phase.unscheduled
    if s.previousPhases ≠ some preset then (true, { s with previousPhases := some preset })
    else (false, s)
  | none => (false, s)

/-- Takes over what a deployment leaves behind, and tells whether that changes the settings. -/
def remember (s : Settings) (selection : Selection) : Bool × Settings :=
  let (newRetries, s) := s.rememberRetries selection
  let (newPhases, s) := s.rememberPhases selection
  (newRetries || newPhases, s)

def wizardOptions (s : Settings) : Wizard.Options :=
  { canRetry := s.capabilities.canRetry
    canSchedule := s.capabilities.canSchedule
    hasFullFiltering := s.capabilities.hasFullFiltering
    needsConfirmation := s.needsConfirmation
    defaultRetries := s.defaultRetries
    previousPhases := s.previousPhases
    groupCountCapacity := s.groupCountCapacity }

end Settings
end FleetRollout
