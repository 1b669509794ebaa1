import FleetRollout.Json.Writer

/-! What the program says of itself: how it is used, and which version it is. -/
namespace FleetRollout.CommandLine

def usageLines : List String :=
  ["Usage: fleetdeploy --release=NAME TARGET [OPTIONS]",
    "       fleetdeploy --init [--settings=PATH] [--config-dir=PATH]",
    "",
    "Targets (exactly one):",
    "  --devices=ID[,ID...]     explicit device ids",
    "  --group=NAME             a device group",
    "  --all-devices            every accepted device",
    "  --filter-id=ID           a saved filter (name via --filter-name=NAME)",
    "",
    "Options:",
    "  --settings=PATH          settings file (default: <config dir>/settings.json)",
    "  --config-dir=PATH        configuration directory",
    "  --log-dir=PATH           also write daily log files here",
    "  --phases=PATTERN         rollout phases, e.g. 10:2h,40:1d,*",
    "                           or \x60previous\x60 for the last phased rollout",
    "  --retries=N              retry failed devices N times",
    "  --save-retries           keep --retries as the default",
    "  --max-devices=N          stop after N devices",
    "  --force                  force installation",
    "  --delta                  generate delta artifacts where available",
    "  --dry-run                print the request instead of sending it",
    "  --yes                    skip the confirmation prompt",
    "  --init                   write a default settings file and exit",
    "  --version                print version information"]

def usage : String := "\n".intercalate usageLines

structure Version where
  number : String := "0.1.0"
  gitHash : String := "unknown"
  buildTime : String := "unknown"
deriving DecidableEq, Repr

def Version.toJson (v : Version) : Json :=
  .obj [("version", .str v.number), ("git_hash", .str v.gitHash),
    ("build_time", .str v.buildTime)]

end FleetRollout.CommandLine
