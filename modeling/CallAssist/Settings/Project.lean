import CallAssist.Log.Level
import CallAssist.Path.Height
import CallAssist.Settings.Layer

/-!
The settings a workspace pins in a file of its own, and the search for that file.
-/

namespace CallAssist

namespace Settings

def defaultCatalogPath : Bytes := utf8 "data/nvgt_functions.json"

def defaultLogLevel : Bytes := utf8 "info"

/-- The names a settings file may have, the first one found being used. -/
def fileNames : List Bytes := [utf8 "nvgtls.yaml", utf8 "nvgtls.yml"]

def fileIn? (fs : Files) (dir : Bytes) : Option Bytes :=
  (fileNames.map fun name => Path.join [dir, name]).find? fs.has

/-- The first of a directory and those above it that holds a settings file; the search ends at the
directory that is above itself. -/
def projectRoot? (fs : Files) (dir : Bytes) : Option Bytes :=
  if (fileIn? fs dir).isSome then some dir
  else if Path.directory dir = dir then none
  else projectRoot? fs (Path.directory dir)
termination_by Path.height dir
decreasing_by exact Path.height_directory_lt ‹_›

/-- A directory and those above it, up to a limit or to the one that is above itself. -/
def ancestors : Nat → Bytes → List Bytes
  | 0, _ => []
  | n + 1, dir =>
    dir :: if Path.directory dir == dir then [] else ancestors n (Path.directory dir)

def searchLimit : Nat := 10

def nearProjectRoot? (fs : Files) (dir : Bytes) : Option Bytes :=
  (ancestors searchLimit dir).find? fun d => (fileIn? fs d).isSome

/-- The settings of a workspace. -/
structure Project where
  catalogPath : Bytes
  logLevel : Bytes
  deriving DecidableEq, Repr

/-- Why the settings of a workspace cannot be used. -/
inductive ProjectError where
  | file (path : Bytes) (fault : FileFault)
  | unconvertible (path : Bytes)
  deriving DecidableEq, Repr

def ProjectError.message : ProjectError → Bytes
  | .file path f => utf8 "error reading " ++ path ++ utf8 ": " ++ f.message
  | .unconvertible path => utf8 "unable to decode " ++ path ++ utf8 ": [mapstructure]"

def ProjectError.isBreakdown : ProjectError → Bool
  | .file _ .breakdown => true
  | _ => false

namespace Project

def ofLayer? (l : Layer) : Option Project := do
  let catalogPath ← l.text? "catalog_path"
  let logLevel ← l.text? "log_level"
  return ⟨catalogPath, logLevel⟩

/-- The settings in the file of a directory; none where there is no file. -/
def load (fs : Files) (dir : Bytes) : Except ProjectError (Option Project) :=
  match fileIn? fs dir with
  | none => .ok none
  | some path => match Layer.ofFile fs path with
    | .error f => .error (.file path f)
    | .ok l => match ofLayer? l with
      | none => .error (.unconvertible path)
      | some p => .ok (some p)

def level (p : Project) : Except LevelError (Option Level) :=
  if p.logLevel.isEmpty then .ok none else (Level.parse p.logLevel).map some

end Project

end Settings

end CallAssist
