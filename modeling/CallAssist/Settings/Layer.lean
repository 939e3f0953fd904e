import CallAssist.Files
import CallAssist.Text.Fold
import CallAssist.Yaml
import CallAssist.Yaml.Value

/-!
Settings by key, in layers: a later layer replaces the keys it has. Values are converted to what a
setting needs where that can be done without loss of sense.
-/

namespace CallAssist

namespace Settings

abbrev Layer := List (Bytes × Yaml.Value)

namespace Layer

def atop (upper lower : Layer) : Layer := upper ++ lower

/-- The value of a key: of exactly that key, else of one that agrees up to letter case. -/
def find? (l : Layer) (key : Bytes) : Option Yaml.Value :=
  match l.lookup key with
  | some v => some v
  | none => (List.find? (fun p => Bytes.foldKey p.1 == Bytes.foldKey key) l).map (·.2)

def ofPairs (ps : List (Yaml.Atom × Yaml.Value)) : Layer :=
  ps.filterMap fun p => match p.1 with
    | .text t => some (t, p.2)
    | _ => none

end Layer

def boolWord? (t : Bytes) : Option Bool :=
  let among (ws : List String) : Bool := ws.any fun w => utf8 w == t
  if among ["1", "t", "T", "true", "TRUE", "True"] then some true
  else if among ["0", "f", "F", "false", "FALSE", "False"] then some false
  else none

/-- A value as a text. Truth values are written as digits; a null is empty; dates, lists and maps
have no text. -/
def textOf? : Yaml.Value → Option Bytes
  | .atom .null => some []
  | .atom (.bool b) => some (if b then utf8 "1" else utf8 "0")
  | .atom (.int n) => some (Bytes.ofInt n)
  | .atom (.float x) => some x.positional
  | .atom (.text t) => some t
  | _ => none

/-- A value as a truth value. A number is true unless zero; an empty text and a null are false. -/
def boolOf? : Yaml.Value → Option Bool
  | .atom .null => some false
  | .atom (.bool b) => some b
  | .atom (.int n) => some (n != 0)
  | .atom (.float x) => some !x.isZero
  | .atom (.text t) => if t.isEmpty then some false else boolWord? t
  | _ => none

def Layer.text? (l : Layer) (key : String) : Option Bytes :=
  match l.find? (utf8 key) with
  | none => some []
  | some v => textOf? v

def Layer.bool? (l : Layer) (key : String) : Option Bool :=
  match l.find? (utf8 key) with
  | none => some false
  | some v => boolOf? v

/-- Why a settings file gives no layer. A breakdown ends the program, so nobody is told about
it. -/
inductive FileFault where
  | unreadable (e : FileError)
  | undecodable
  | breakdown
  deriving DecidableEq, Repr

def FileFault.message : FileFault → Bytes
  | .unreadable e => e.message
  | .undecodable => utf8 "[yaml]"
  | .breakdown => utf8 "reading broke down"

/-- The layer in a settings file. A file without any content is an empty layer. -/
def Layer.ofFile (fs : Files) (path : Bytes) : Except FileFault Layer :=
  match fs.read (Path.clean path) with
  | .error e => .error (.unreadable e)
  | .ok data => match Yaml.read data Yaml.Node.settings with
    | .error .empty => .ok []
    | .error .malformed => .error .undecodable
    | .error .breakdown => .error .breakdown
    | .ok ps => .ok (ofPairs ps)

end Settings

end CallAssist
