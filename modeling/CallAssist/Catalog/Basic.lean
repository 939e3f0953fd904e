import CallAssist.Text.Quoted

/-!
Catalogues of callable functions: ordered, with one identifier for each function.
-/

namespace CallAssist

/-- A callable function as an editor shows it. -/
structure Function where
  name : Bytes
  params : List Bytes
  description : Bytes
  deriving DecidableEq, Repr

def Function.signature (f : Function) : Bytes :=
  f.name ++ utf8 "(" ++ Bytes.join (utf8 ", ") f.params ++ utf8 ")"

/-- The parts of a catalogue entry. -/
inductive Part where
  | name
  | params
  | description
  deriving DecidableEq, Repr

def Part.label : Part → Bytes
  | .name => utf8 "name"
  | .params => utf8 "params"
  | .description => utf8 "description"

/-- What can be wrong with a catalogue entry. -/
inductive EntryFault where
  | missing (part : Part)
  | emptyName
  | notIdentifier (name : Bytes)
  | duplicate (name : Bytes) (first : Nat)
  deriving DecidableEq, Repr

def EntryFault.part : EntryFault → Part
  | .missing p => p
  | _ => .name

def EntryFault.reason : EntryFault → Bytes
  | .missing _ => utf8 "is required"
  | .emptyName => utf8 "must not be empty"
  | .notIdentifier name => Bytes.quoted name ++ utf8 " is not a valid identifier"
  | .duplicate name first =>
    utf8 "duplicate function " ++ Bytes.quoted name ++ utf8 " (first defined at entry " ++
      Bytes.ofNat first ++ utf8 ")"

/-- A faulty entry, by its position in the source. -/
structure EntryError where
  index : Nat
  fault : EntryFault
  deriving DecidableEq, Repr

def EntryError.message (e : EntryError) : Bytes :=
  utf8 "catalog entry " ++ Bytes.ofNat e.index ++ utf8 ": " ++ e.fault.part.label ++ utf8 " " ++
    e.fault.reason

/-- Functions in order, with the position of each name. -/
structure Catalog where
  functions : List Function
  positions : List (Bytes × Nat)
  deriving DecidableEq, Repr

namespace Catalog

def empty : Catalog := ⟨[], []⟩

def size (c : Catalog) : Nat := c.functions.length

def index? (c : Catalog) (name : Bytes) : Option Nat := c.positions.lookup name

def at? (c : Catalog) (i : Nat) : Option Function := c.functions[i]?

def lookup? (c : Catalog) (name : Bytes) : Option Function := (c.index? name).bind c.at?

def fault? (c : Catalog) (f : Function) : Option EntryFault :=
  if f.name.isEmpty then some .emptyName
  else if !Bytes.isIdentifier f.name then some (.notIdentifier f.name)
  else (c.index? f.name).map (.duplicate f.name)

def push (c : Catalog) (f : Function) : Catalog :=
  ⟨c.functions ++ [f], (f.name, c.size) :: c.positions⟩

def extend (c : Catalog) : List Function → Except EntryError Catalog
  | [] => .ok c
  | f :: fs => match c.fault? f with
    | some fault => .error ⟨c.size, fault⟩
    | none => extend (c.push f) fs

def ofFunctions (fs : List Function) : Except EntryError Catalog := empty.extend fs

/-- The first characters of the function names, each once, in order of first occurrence. -/
def triggers (c : Catalog) : List Bytes :=
  c.functions.foldl (fun seen f =>
    let first := f.name.take 1
    if seen.contains first then seen else seen ++ [first]) []

end Catalog

end CallAssist
