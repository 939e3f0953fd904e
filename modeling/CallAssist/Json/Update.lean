import CallAssist.Json.Number
import CallAssist.Json.Text
import CallAssist.Text.Fold

/-!
Reading JSON values into typed ones. A reader changes a value already held: `null` and missing
fields leave it as it is, a repeated field is read over the first reading, and a value of the wrong
shape fails the whole.
-/

namespace CallAssist

namespace Json

abbrev Update (α : Type) := α → Json → Option α

/-- The reader for a key: the field of exactly that name, else the first whose name agrees up to
letter case. -/
def reader? {α : Type} (readers : List (Bytes × Update α)) (key : Bytes) : Option (Update α) :=
  match readers.lookup key with
  | some u => some u
  | none => (readers.find? fun r => Bytes.foldKey r.1 == Bytes.foldKey key).map (·.2)

namespace Update

def text : Update Bytes
  | held, .null => some held
  | _, .string body => some (textOfBody body)
  | _, _ => none

def flag : Update Bool
  | held, .null => some held
  | _, .bool b => some b
  | _, _ => none

def integer : Update Int
  | held, .null => some held
  | _, .number ds => (Integer.decimal ds).toOption
  | _, _ => none

def word : Update UInt32
  | held, .null => some held
  | _, .number ds => match Integer.decimalNat ds with
    | .ok n => if n < 0x100000000 then some n.toUInt32 else none
    | .error _ => none
  | _, _ => none

/-- Any value, kept as it came, `null` included. -/
def verbatim : Update (Option Json)
  | _, v => some (some v)

def checked : Update Unit
  | _, v => if numbersFit v then some () else none

/-- A value that `null` takes away and anything else creates or changes. -/
def optional {α : Type} (fresh : α) (u : Update α) : Update (Option α)
  | _, .null => some none
  | held, v => (u (held.getD fresh) v).map some

/-- The fields of an object in the order they come; unknown ones are ignored. -/
def record {α : Type} (readers : List (Bytes × Update α)) : Update α
  | held, .null => some held
  | held, .object fs => go held fs
  | _, _ => none
where
  go : α → List (Bytes × Json) → Option α
    | held, [] => some held
    | held, (key, v) :: fs =>
      match reader? readers (textOfBody key) with
      | none => go held fs
      | some u => match u held v with
        | none => none
        | some held => go held fs

def member {α β : Type} (key : String) (get : α → β) (set : α → β → α) (u : Update β) :
    Bytes × Update α :=
  (utf8 key, fun held v => (u (get held) v).map (set held))

end Update

/-- A list read from an array. Places beyond the end keep what an earlier reading left there, and
a later, longer array is read over it. -/
structure Cells (α : Type) where
  cells : List α
  size : Nat

namespace Cells

variable {α : Type}

def empty : Cells α := ⟨[], 0⟩

def toList (c : Cells α) : List α := c.cells.take c.size

/-- Items read over places already there, and into fresh ones after them. -/
def overwrite (fresh : α) (u : Update α) : List α → List Json → Option (List α)
  | cells, [] => some cells
  | [], v :: vs => do
    let x ← u fresh v
    let xs ← overwrite fresh u [] vs
    return x :: xs
  | c :: cells, v :: vs => do
    let x ← u c v
    let xs ← overwrite fresh u cells vs
    return x :: xs

/-- An array of items; an empty array and `null` also forget the old places. -/
def update (fresh : α) (u : Update α) : Update (Cells α)
  | _, .null => some empty
  | _, .array [] => some empty
  | held, .array xs => (overwrite fresh u held.cells xs).map fun cells => ⟨cells, xs.length⟩
  | _, _ => none

end Cells

end Json

end CallAssist
