import CallAssist.Catalog.Basic
import CallAssist.Json.Text
import CallAssist.Render.Basic

/-!
The functions of a catalogue, listed.
-/

namespace CallAssist

def Function.json (f : Function) : Json :=
  .object [Json.field "name" (.ofText f.name),
    Json.field "params" (.array (f.params.map .ofText)),
    Json.field "description" (.ofText f.description)]

namespace Listing

def select (c : Catalog) (front : Bytes) : List Function :=
  c.functions.filter fun f => front.isPrefixOf f.name

def descriptionWidth : Nat := 60

def shortened (most : Nat) (t : Bytes) : Bytes :=
  let cs := Bytes.chars (Bytes.replace 0x0A [0x20] t)
  if cs.length ≤ most then Bytes.ofChars cs
  else Bytes.ofChars (cs.take (most - 3)) ++ utf8 "..."

def table (fs : List Function) : Render.Table :=
  ⟨[utf8 "Name", utf8 "Signature", utf8 "Description"],
    fs.map fun f => [f.name, f.signature, shortened descriptionWidth f.description]⟩

def json (fs : List Function) : Json := .array (fs.map Function.json)

def printed (r : Renderer) (c : Catalog) (front : Bytes) : Printed :=
  let fs := select c front
  if r.isJson then r.json (json fs)
  else
    r.header 1 (utf8 "Functions (" ++ Bytes.ofNat fs.length ++ utf8 " of " ++ Bytes.ofNat c.size ++
      utf8 ")") ++
      if fs.isEmpty then r.note (utf8 "No functions match.") else r.table (table fs)

end Listing

end CallAssist
