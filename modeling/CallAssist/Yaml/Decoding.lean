import CallAssist.Yaml.Failure

/-!
The work of turning a tree into values. Every node met is counted, and with it those that were met
behind an alias: a document that consists of little else is refused. A node of the wrong kind is a
flaw; the rest is still read, and only then does the reading fail.
-/

namespace CallAssist

namespace Yaml

/-- Nodes met so far, how many of them behind an alias, and whether there was a flaw. -/
structure Effort where
  steps : Nat
  aliased : Nat
  flawed : Bool
  deriving DecidableEq, Repr

namespace Effort

def none : Effort := ⟨0, 0, false⟩

/-- Whether too large a part of the nodes stands behind aliases, once there are many of both: more
than 99 in 100 up to the first limit, from where on the part gets smaller down to 10 in 100. -/
def isExcessive (e : Effort) : Bool :=
  let low := 400000
  let high := 4000000
  100 < e.aliased && 1000 < e.steps &&
    if e.steps ≤ low then e.steps * 99 < e.aliased * 100
    else if high ≤ e.steps then e.steps * 10 < e.aliased * 100
    else e.steps * (99 * (high - low) - 89 * (e.steps - low)) < e.aliased * 100 * (high - low)

end Effort

abbrev Decoding (α : Type) := StateT Effort (Except Failure) α

namespace Decoding

def meet (behind : Bool) : Decoding Unit := fun e =>
  let e := { e with steps := e.steps + 1, aliased := if behind then e.aliased + 1 else e.aliased }
  if e.isExcessive then .error .malformed else .ok ((), e)

def refuse {α : Type} : Decoding α := fun _ => .error .malformed

def breakDown {α : Type} : Decoding α := fun _ => .error .breakdown

def note : Decoding Unit := fun e => .ok ((), { e with flawed := true })

def flaw {α : Type} : Decoding (Option α) := do
  note
  return none

def ofOption {α : Type} : Option α → Decoding α
  | some a => pure a
  | none => refuse

def result {α : Type} (d : Decoding α) : Except Failure α :=
  match d .none with
  | .error f => .error f
  | .ok (a, e) => if e.flawed then .error .malformed else .ok a

end Decoding

end Yaml

end CallAssist
