/-! Log levels and log entries. -/
namespace FleetRollout

inductive LogLevel where
  | trace
  | debug
  | info
  | warn
  | error
deriving DecidableEq, Repr, Inhabited

namespace LogLevel

def name : LogLevel → String
  | trace => "trace"
  | debug => "debug"
  | info => "info"
  | warn => "warn"
  | error => "error"

def label : LogLevel → String
  | trace => "TRACE"
  | debug => "DEBUG"
  | info => "INFO"
  | warn => "WARN"
  | error => "ERROR"

def rank : LogLevel → Nat
  | trace => 0
  | debug => 1
  | info => 2
  | warn => 3
  | error => 4

/-- Whether entries of this level are kept when `threshold` is the least level to keep. -/
def passes (level threshold : LogLevel) : Bool := threshold.rank ≤ level.rank

/-- Reads a name in any mix of cases; `warning` is another name of `warn`. -/
def ofName? (s : String) : Option LogLevel :=
  match s.toLower with
  | "trace" => some trace
  | "debug" => some debug
  | "info" => some info
  | "warn" | "warning" => some warn
  | "error" => some error
  | _ => none

def unknownName (s : String) : String := "Invalid log level: " ++ s

end LogLevel

structure LogEntry where
  level : LogLevel
  message : String
deriving DecidableEq, Repr

end FleetRollout
