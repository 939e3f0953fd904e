import CallAssist.Catalog.Source
import CallAssist.Files

/-!
Catalogues read from files.
-/

namespace CallAssist

/-- Why a path gives no catalogue. -/
inductive LoadError where
  | unknownFormat (extension : Bytes)
  | unreadable (path : Bytes) (e : FileError)
  | invalid (path : Bytes) (e : SourceError)
  deriving DecidableEq, Repr

def LoadError.message : LoadError → Bytes
  | .unknownFormat ext => utf8 "unsupported catalog format: " ++ Bytes.quoted ext
  | .unreadable path e => utf8 "failed to read catalog " ++ path ++ utf8 ": " ++ e.message
  | .invalid path e => utf8 "invalid catalog " ++ path ++ utf8 ": " ++ e.message

def LoadError.isBreakdown : LoadError → Bool
  | .invalid _ .breakdown => true
  | _ => false

def Format.ofPath (path : Bytes) : Except LoadError Format :=
  let ext := Path.extension path
  let lower := Bytes.toLower ext
  if lower == utf8 ".json" then .ok .json
  else if lower == utf8 ".yaml" || lower == utf8 ".yml" then .ok .yaml
  else .error (.unknownFormat ext)

def Catalog.load (fs : Files) (path : Bytes) : Except LoadError Catalog := do
  let f ← Format.ofPath path
  match fs.read path with
  | .error e => .error (.unreadable path e)
  | .ok data => match Catalog.parse data f with
    | .error e => .error (.invalid path e)
    | .ok c => .ok c

def Catalog.breaksDown (fs : Files) (path : Bytes) : Bool :=
  match Catalog.load fs path with
  | .error e => e.isBreakdown
  | .ok _ => false

end CallAssist
