import CallAssist.Catalog.JsonEntries
import CallAssist.Catalog.YamlEntries

/-!
Catalogues read from text.
-/

namespace CallAssist

/-- The notations a catalogue may be written in. -/
inductive Format where
  | json
  | yaml
  deriving DecidableEq, Repr

namespace Format

def label : Format → Bytes
  | .json => utf8 "json"
  | .yaml => utf8 "yaml"

def ofLabel? (t : Bytes) : Option Format :=
  if t == utf8 "json" then some .json
  else if t == utf8 "yaml" then some .yaml
  else none

end Format

/-- Why a source gives no catalogue. A breakdown ends the program, so nobody is told about it. -/
inductive SourceError where
  | unknownFormat (label : Bytes)
  | undecodable (format : Format)
  | emptyStream
  | breakdown
  | notList
  | entry (e : EntryError)
  deriving DecidableEq, Repr

def SourceError.message : SourceError → Bytes
  | .unknownFormat label => utf8 "unsupported catalog format: " ++ Bytes.quoted label
  | .undecodable f => utf8 "failed to decode " ++ f.label ++ utf8 ": [" ++ f.label ++ utf8 "]"
  | .emptyStream => utf8 "failed to decode yaml: EOF"
  | .breakdown => utf8 "reading broke down"
  | .notList => utf8 "catalog must be an array of functions"
  | .entry e => e.message

namespace Format

def entries (data : Bytes) : Format → Except SourceError (Option (List Entry))
  | .json => match (Json.parse data).bind Json.entries? with
    | none => .error (.undecodable .json)
    | some es => .ok es
  | .yaml => match Yaml.read data Yaml.Node.entries with
    | .error .empty => .error .emptyStream
    | .error .malformed => .error (.undecodable .yaml)
    | .error .breakdown => .error .breakdown
    | .ok es => .ok es

end Format

namespace Catalog

def parse (data : Bytes) (f : Format) : Except SourceError Catalog :=
  match f.entries data with
  | .error e => .error e
  | .ok none => .error .notList
  | .ok (some es) => match ofEntries es with
    | .error e => .error (.entry e)
    | .ok c => .ok c

def parseAs (data label : Bytes) : Except SourceError Catalog :=
  match Format.ofLabel? label with
  | none => .error (.unknownFormat label)
  | some f => parse data f

end Catalog

end CallAssist
