import CallAssist.Catalog.Entry
import CallAssist.Yaml
import CallAssist.Yaml.Value

/-!
Catalogue entries from YAML. Scalars keep their spelling, nulls in lists are left out, and keys that
name no part of an entry are passed over with their values.
-/

namespace CallAssist

namespace Yaml

def itemTexts (behind : Bool) : List Node → Decoding (List Bytes)
  | [] => pure []
  | x :: xs => do
    let t ← x.text behind
    let ts ← itemTexts behind xs
    return t.toList ++ ts

/-- Whether a scalar is a null; any other scalar is a flaw where none may stand. -/
def onlyNull {α : Type} (tag text : Bytes) : Decoding (Option α) := do
  match ← Decoding.ofOption (atom? tag text) with
  | .null => return none
  | _ => Decoding.flaw

def Node.textList (behind : Bool) : Node → Decoding (Option (List Bytes))
  | .scalar tag text => do
    Decoding.meet behind
    onlyNull tag text
  | .sequence tag xs => do
    Decoding.meet behind
    if tag == Tag.null then Decoding.flaw else return some (← itemTexts behind xs)
  | .alias _ n => do
    Decoding.meet behind
    n.textList true
  | _ => do
    Decoding.meet behind
    Decoding.flaw

def Node.setPart (behind : Bool) (p : Part) (v : Node) (e : Entry) : Decoding Entry :=
  match p with
  | .name => return { e with name := ← v.text behind }
  | .params => return { e with params := ← v.textList behind }
  | .description => return { e with description := ← v.text behind }

def part? (key : Bytes) : Option Part :=
  [Part.name, .params, .description].find? fun p => p.label == key

/-- An entry being filled. While a mapping is merged, `taken` holds the keys that are not to be set
again. -/
structure EntryFilling where
  entry : Entry
  taken : Option (List Atom)

/-- The pairs of a mapping set one by one; a merge key is left for later. A part is set at most
once, `set` holding those that were. -/
def fillParts (behind : Bool) :
    List Part → List (Node × Node) → EntryFilling → Decoding EntryFilling
  | _, [], f => pure f
  | set, (k, v) :: ps, f => do
    if k.isMerge then fillParts behind set ps f
    else match ← k.text behind with
      | none => fillParts behind set ps f
      | some key =>
        if (f.taken.getD []).contains (.text key) then fillParts behind set ps f
        else
          let taken := f.taken.map (.text key :: ·)
          match part? key with
          | none => fillParts behind set ps { f with taken := taken }
          | some p =>
            if set.contains p then
              Decoding.note
              fillParts behind set ps { f with taken := taken }
            else
              let e ← v.setPart behind p f.entry
              fillParts behind (p :: set) ps ⟨e, taken⟩

mutual

/-- The mapping behind a merge key taken in. Its keys give way to those of `all`, or to those
already taken while `all` is itself merged. -/
def mergeParts (behind : Bool) (all : List (Node × Node)) :
    List (Node × Node) → EntryFilling → Decoding EntryFilling
  | [], f => pure f
  | (k, v) :: ps, f => do
    if k.isMerge then
      match f.taken with
      | some _ => v.mergeIntoParts behind f
      | none =>
        let ks ← keyAtoms behind all
        let g ← v.mergeIntoParts behind ⟨f.entry, some ks⟩
        return ⟨g.entry, none⟩
    else mergeParts behind all ps f

def Node.mergeIntoParts (behind : Bool) : Node → EntryFilling → Decoding EntryFilling
  | .mapping _ ps, f => do
    Decoding.meet behind
    if Node.keysDiffer ps then mergeParts behind ps ps (← fillParts behind [] ps f)
    else
      Decoding.note
      return f
  | .alias _ n, f => do
    if n.isMapping then
      Decoding.meet behind
      n.mergeIntoParts true f
    else Decoding.refuse
  | .sequence _ xs, f => mergePartItems behind xs f
  | _, _ => Decoding.refuse

def mergePartItems (behind : Bool) : List Node → EntryFilling → Decoding EntryFilling
  | [], f => pure f
  | x :: xs, f => do
    if x.isMergeable then mergePartItems behind xs (← x.mergeIntoParts behind f)
    else Decoding.refuse

end

namespace Node

def entry (behind : Bool) : Node → Decoding (Option Entry)
  | .mapping _ ps => do
    Decoding.meet behind
    if keysDiffer ps then
      let f ← fillParts behind [] ps ⟨⟨none, none, none⟩, none⟩
      return some (← mergeParts behind ps ps f).entry
    else Decoding.flaw
  | .scalar tag text => do
    Decoding.meet behind
    onlyNull tag text
  | .alias _ n => do
    Decoding.meet behind
    n.entry true
  | _ => do
    Decoding.meet behind
    Decoding.flaw

def itemEntries : List Node → Decoding (List Entry)
  | [] => pure []
  | x :: xs => do
    let e ← x.entry false
    let es ← itemEntries xs
    return e.toList ++ es

def entries : Node → Decoding (Option (List Entry))
  | .sequence _ xs => do
    Decoding.meet false
    Decoding.meet false
    return some (← itemEntries xs)
  | .scalar tag text => onlyNull tag text
  | _ => Decoding.refuse

end Node

end Yaml

end CallAssist
