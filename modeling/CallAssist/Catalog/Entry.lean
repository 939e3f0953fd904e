import CallAssist.Catalog.Basic

/-!
Catalogue entries as they are found in a source. Every entry must have all its parts, and that is
checked for the whole list before any name is looked at.
-/

namespace CallAssist

/-- An entry as it was found, before its parts are required. -/
structure Entry where
  name : Option Bytes
  params : Option (List Bytes)
  description : Option Bytes
  deriving DecidableEq, Repr

namespace Entry

def function : Entry → Except Part Function
  | ⟨none, _, _⟩ => .error .name
  | ⟨some _, none, _⟩ => .error .params
  | ⟨some _, some _, none⟩ => .error .description
  | ⟨some name, some params, some description⟩ => .ok ⟨name, params, description⟩

def functions : Nat → List Entry → Except EntryError (List Function)
  | _, [] => .ok []
  | i, e :: es => match e.function with
    | .error p => .error ⟨i, .missing p⟩
    | .ok f => (functions (i + 1) es).map (f :: ·)

end Entry

namespace Catalog

def ofEntries (es : List Entry) : Except EntryError Catalog := do
  ofFunctions (← Entry.functions 0 es)

end Catalog

end CallAssist
