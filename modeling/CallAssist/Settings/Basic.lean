import CallAssist.Command.Flag
import CallAssist.Settings.Project

/-!
The settings of a run, from four layers: built-in values, a file, the environment, and flags.
-/

namespace CallAssist

/-- The settings of a run. -/
structure Settings where
  catalogPath : Bytes
  logLevel : Bytes
  logFile : Bytes
  verbose : Bool
  output : Bytes
  projectRoot : Bytes
  deriving DecidableEq, Repr

namespace Settings

def defaultOutput : Bytes := utf8 "auto"

def default : Settings := ⟨defaultCatalogPath, defaultLogLevel, [], false, defaultOutput, []⟩

def outputs : List Bytes := [utf8 "auto", utf8 "text", utf8 "markdown", utf8 "json"]

/-- What makes settings unusable. -/
inductive Invalid where
  | level (e : LevelError)
  | output (text : Bytes)
  deriving DecidableEq, Repr

def Invalid.message : Invalid → Bytes
  | .level e => e.message
  | .output t =>
    utf8 "invalid output " ++ Bytes.quoted t ++ utf8 " (expected one of " ++
      Bytes.join (utf8 ", ") outputs ++ utf8 ")"

def validate (s : Settings) : Except Invalid Unit :=
  match Level.parse s.logLevel with
  | .error e => .error (.level e)
  | .ok _ => if outputs.contains s.output then .ok () else .error (.output s.output)

def threshold (s : Settings) : Except LevelError Level :=
  (Level.parse s.logLevel).map fun l =>
    if s.verbose && Level.debug.rank < l.rank then .debug else l

/-- Why a run has no settings. -/
inductive Error where
  | file (path : Bytes) (fault : FileFault)
  | unconvertible
  | invalid (e : Invalid)
  deriving DecidableEq, Repr

def Error.message : Error → Bytes
  | .file path f => utf8 "error reading config file " ++ path ++ utf8 ": " ++ f.message
  | .unconvertible => utf8 "unable to decode config: [mapstructure]"
  | .invalid e => utf8 "invalid configuration: " ++ e.message

def Error.isBreakdown : Error → Bool
  | .file _ .breakdown => true
  | _ => false

def builtin : Layer := [
  (utf8 "catalog_path", .atom (.text defaultCatalogPath)),
  (utf8 "log_level", .atom (.text defaultLogLevel)),
  (utf8 "log_file", .atom (.text [])),
  (utf8 "verbose", .atom (.bool false)),
  (utf8 "output", .atom (.text defaultOutput))]

def variableFront : Bytes := utf8 "NVGTLS_"

/-- The layer of the environment: the names after their common front, in lower case. A name with a
point in it makes its first part a map, unless that part is itself a name. -/
def ofEnvironment (env : List (Bytes × Bytes)) : Layer :=
  let named := env.filterMap fun (name, value) =>
    (Bytes.dropFront? variableFront name).map fun rest => (Bytes.lowerName rest, value)
  let plain := named.reverse.filterMap fun (key, value) =>
    if key.isEmpty || key.contains 0x2E then none
    else some (key, Yaml.Value.atom (.text value))
  let nested := named.filterMap fun (key, _) =>
    (Bytes.cut 0x2E key).map fun (first, _) => (first, Yaml.Value.map [])
  plain ++ nested

def ofFlags (p : Command.Parsed) : Layer :=
  p.values.map fun (name, value) =>
    let key := Bytes.replace 0x2D [0x5F] name
    let key := if key == utf8 "catalog" then utf8 "catalog_path" else key
    (key, match value with
      | .text t => .atom (.text t)
      | .bool b => .atom (.bool b)
      | .int n => .atom (.int n))

/-- The directory that relative paths are read from: that of a file given by name, else the nearest
one with a settings file, else the working directory. -/
def inferRoot (fs : Files) (file : Bytes) : Bytes :=
  if file.isEmpty then (nearProjectRoot? fs fs.cwd).getD fs.cwd
  else Path.directory (Path.absolute fs.cwd file)

/-- A path read from a directory; an empty or absolute one is kept. -/
def resolvePath (path dir : Bytes) : Bytes :=
  if path.isEmpty || Path.isAbsolute path then path else Path.join [dir, path]

def flagCatalog? (fs : Files) (flags : Option Command.Parsed) : Option Bytes :=
  match flags.bind fun p => p.text? "catalog" with
  | some path => if path.isEmpty then none else some (Path.absolute fs.cwd path)
  | none => none

def file? (fs : Files) (file root : Bytes) : Option Bytes :=
  if file.isEmpty then fileIn? fs root else some file

/-- The key of a setting that is always replaced by the root; its value must be a text all the
same. -/
def unusedKey : String := "-"

def ofLayers (fs : Files) (flags : Option Command.Parsed) (root : Bytes) (l : Layer) :
    Except Error Settings :=
  let converted : Option Settings := do
    let catalogPath ← l.text? "catalog_path"
    let logLevel ← l.text? "log_level"
    let logFile ← l.text? "log_file"
    let verbose ← l.bool? "verbose"
    let output ← l.text? "output"
    let _ ← l.text? unusedKey
    return ⟨(flagCatalog? fs flags).getD (resolvePath catalogPath root), logLevel,
      resolvePath logFile root, verbose, output, root⟩
  match converted with
  | none => .error .unconvertible
  | some s => match s.validate with
    | .error e => .error (.invalid e)
    | .ok _ => .ok s

/-- The settings of a run, and the file they were read from, if any. -/
structure Loaded where
  file : Option Bytes
  settings : Except Error Settings

def load (fs : Files) (env : List (Bytes × Bytes)) (file : Bytes)
    (flags : Option Command.Parsed) : Loaded :=
  let root := inferRoot fs file
  let upper := Layer.atop ((flags.map ofFlags).getD []) (ofEnvironment env)
  match file? fs file root with
  | none => ⟨none, ofLayers fs flags root (upper.atop builtin)⟩
  | some path => match Layer.ofFile fs path with
    | .error f => ⟨none, .error (.file path f)⟩
    | .ok l => ⟨some path, ofLayers fs flags root (upper.atop (l.atop builtin))⟩

end Settings

end CallAssist
