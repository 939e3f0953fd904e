import CallAssist.Call.Context
import CallAssist.Catalog.Basic

/-!
Calls matched against a catalogue.
-/

namespace CallAssist

/-- A call of a known function: its position, and the argument the cursor stands in, which may lie
beyond the declared parameters. -/
structure Resolution where
  function : Function
  index : Nat
  activeParameter : Nat
  deriving DecidableEq, Repr

namespace Catalog

def select (c : Catalog) (name args : Bytes) : Option Resolution := do
  let i ← c.index? name
  let f ← c.at? i
  return ⟨f, i, CallContext.activeParameter args⟩

def resolve (c : Catalog) (line : Bytes) (offset : Int) : Option Resolution := do
  let context ← CallContext.at? line offset
  c.select context.name context.args

end Catalog

end CallAssist
