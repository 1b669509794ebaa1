import FleetRollout.Text.Split

/-! Where settings and log files are kept. Paths are texts whose parts are separated by slashes; a
path that starts with a slash is absolute. -/
namespace FleetRollout.Storage

/-- The path of a name inside a directory. Nothing is normalised, and no slash is doubled. -/
def joinPath (base name : String) : String :=
  if base.isEmpty || base.toList.getLast? = some '/' then base ++ name else base ++ "/" ++ name

/-- The path of the directory that a path lies in; empty if the path is a name alone. -/
def parentPath (path : String) : String :=
  let inner := Text.trimEndOf '/' path.toList
  let parent := (inner.reverse.dropWhile (· ≠ '/')).reverse
  match Text.trimEndOf '/' parent with
  | [] => if parent.isEmpty then "" else "/"
  | names => String.ofList names

structure Layout where
  base : String := "/etc/fleetdeploy"
deriving DecidableEq, Repr

namespace Layout

def settingsFile (l : Layout) : String := joinPath l.base "settings.json"

def logsDirectory (l : Layout) : String := joinPath l.base "logs"

end Layout

end FleetRollout.Storage
