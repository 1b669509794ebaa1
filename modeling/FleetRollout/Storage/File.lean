import FleetRollout.Dialogue
import FleetRollout.Storage.Layout
import FleetRollout.Storage.Settings

/-! The settings file. A file that does not exist stands for the default settings. -/
namespace FleetRollout.Storage

inductive Question where
  /-- Looks for something at a path. -/
  | examine (path : String)
  /-- The text of a file. -/
  | read (path : String)
  /-- Replaces the text of a file; the file and its directory are made if they are missing. -/
  | write (path text : String)
deriving DecidableEq, Repr

@[reducible] def Question.Answer : Question → Type
  | .examine _ => Except FileFault Unit
  | read _ => Except FileFault String
  | write _ _ => Except FileFault Unit

@[reducible] def interface : Interface := ⟨Question, Question.Answer⟩

abbrev Program (α : Type) := Dialogue interface α

def examineFile (path : String) : Program (Except FileFault Unit) :=
  .query (I := interface) (.examine path)

/-- Whether something is at a path. What cannot be examined counts as missing, whatever the reason. -/
def fileExists (path : String) : Program Bool := do
  return (← examineFile path).isOk

def readFile (path : String) : Program (Except FileFault String) :=
  .query (I := interface) (.read path)

def writeFile (path text : String) : Program (Except FileFault Unit) :=
  .query (I := interface) (.write path text)

def loadSettings (path : String) : Program (Except DeployError Settings) := do
  match ← readFile path with
  | .ok text => return Settings.ofText text
  | .error fault => return .error (.io fault)

def loadSettingsOrDefault (path : String) : Program (Except DeployError Settings) := do
  if ← fileExists path then loadSettings path else return .ok {}

def saveSettings (path : String) (settings : Settings) : Program (Except DeployError Unit) := do
  match ← writeFile path settings.toText with
  | .ok () => return .ok ()
  | .error fault => return .error (.io fault)

end FleetRollout.Storage
