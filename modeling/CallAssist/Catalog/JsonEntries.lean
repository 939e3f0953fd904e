import CallAssist.Catalog.Entry
import CallAssist.Json.Parser
import CallAssist.Json.Update

/-!
Catalogue entries from JSON.
-/

namespace CallAssist

/-- An entry while its JSON object is being read. -/
structure EntryCells where
  name : Option Bytes
  params : Option (Json.Cells Bytes)
  description : Option Bytes

namespace EntryCells

def fresh : EntryCells := ⟨none, none, none⟩

def entry (e : EntryCells) : Entry := ⟨e.name, e.params.map Json.Cells.toList, e.description⟩

def update : Json.Update EntryCells := Json.Update.record [
  Json.Update.member "name" name (fun e v => { e with name := v }) (.optional [] .text),
  Json.Update.member "params" params (fun e v => { e with params := v })
    (.optional .empty (Json.Cells.update [] .text)),
  Json.Update.member "description" description (fun e v => { e with description := v })
    (.optional [] .text)]

end EntryCells

/-- The entries of a JSON value; the outer option fails, the inner one is a list that is not
there. -/
def Json.entries? (v : Json) : Option (Option (List Entry)) :=
  match v with
  | .null => some none
  | v => (Json.Cells.update EntryCells.fresh EntryCells.update .empty v).map fun cells =>
    some (cells.toList.map EntryCells.entry)

end CallAssist
