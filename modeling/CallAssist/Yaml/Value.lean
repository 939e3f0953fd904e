import CallAssist.Yaml.Decoding
import CallAssist.Yaml.Scalar

/-!
The value of a whole tree: lists, maps and scalars, with merged mappings taken in.
-/

namespace CallAssist

namespace Yaml

def Atom.sameKey : Atom → Atom → Bool
  | .float .nan, _ => false
  | a, b => a == b

/-- A value without a type given in advance. A map keeps its keys in the order they were first
set. -/
inductive Value where
  | atom (a : Atom)
  | list (items : List Value)
  | map (pairs : List (Atom × Value))
  deriving Repr, Inhabited

def setPair (k : Atom) (v : Value) : List (Atom × Value) → List (Atom × Value)
  | [] => [(k, v)]
  | (k', v') :: ps => if k.sameKey k' then (k', v) :: ps else (k', v') :: setPair k v ps

/-- A map being filled. While a mapping is merged, `taken` holds the keys that are not to be set
again. -/
structure Filling where
  pairs : List (Atom × Value)
  taken : Option (List Atom)

def hasTextKeys (ps : List (Node × Node)) : Bool :=
  ps.all fun p => p.1.tag == Tag.string || p.1.tag == Tag.merge

/-- The text a node stands for; any scalar is taken by its spelling, and a null has none. -/
def Node.text (behind : Bool) : Node → Decoding (Option Bytes)
  | .scalar tag text => do
    Decoding.meet behind
    Decoding.ofOption (string? tag text)
  | .alias _ n => do
    Decoding.meet behind
    n.text true
  | _ => do
    Decoding.meet behind
    Decoding.flaw

def Node.isMergeable : Node → Bool
  | .mapping _ _ => true
  | .alias _ n => n.isMapping
  | _ => false

/-- The key that a value makes in a general map. A list or map is none: it is refused, and while a
mapping is merged it breaks the reading down. -/
def Value.key (merging : Bool) : Value → Decoding Atom
  | .atom a => pure a
  | _ => if merging then Decoding.breakDown else Decoding.refuse

mutual

def Node.value (behind : Bool) : Node → Decoding (Option Value)
  | .scalar tag text => do
    Decoding.meet behind
    return some (.atom (← Decoding.ofOption (atom? tag text)))
  | .sequence _ xs => do
    Decoding.meet behind
    return some (.list (← itemValues behind xs))
  | .mapping _ ps => do
    Decoding.meet behind
    if Node.keysDiffer ps then
      let textKeys := hasTextKeys ps
      let f ← fillPairs behind textKeys ps ⟨[], none⟩
      return some (.map (← mergePairs behind textKeys (keyAtoms behind ps) ps f).pairs)
    else Decoding.flaw
  | .alias _ n => do
    Decoding.meet behind
    n.value true
  | .loop _ => Decoding.refuse

def itemValues (behind : Bool) : List Node → Decoding (List Value)
  | [] => pure []
  | x :: xs => do
    let v ← x.value behind
    let vs ← itemValues behind xs
    return v.toList ++ vs

/-- The pairs of a mapping set one by one; a merge key is left for later. -/
def fillPairs (behind textKeys : Bool) : List (Node × Node) → Filling → Decoding Filling
  | [], f => pure f
  | (k, v) :: ps, f => do
    if k.isMerge then fillPairs behind textKeys ps f
    else
      let key ← (do
        if textKeys then return (← k.text behind).map .text
        else match ← k.value behind with
          | none => return none
          | some w => return some (← w.key f.taken.isSome))
      match key with
      | none => fillPairs behind textKeys ps f
      | some key =>
        if (f.taken.getD []).any (Atom.sameKey key) then fillPairs behind textKeys ps f
        else
          let taken := f.taken.map (key :: ·)
          match ← v.value behind with
          | none => fillPairs behind textKeys ps ⟨f.pairs, taken⟩
          | some value => fillPairs behind textKeys ps ⟨setPair key value f.pairs, taken⟩

def keyAtoms (behind : Bool) : List (Node × Node) → Decoding (List Atom)
  | [] => pure []
  | (k, _) :: ps => do
    match ← k.value behind with
    | none => keyAtoms behind ps
    | some w =>
      let a ← w.key true
      return a :: (← keyAtoms behind ps)

/-- The mapping behind a merge key taken in. Its keys give way to those of the mapping around it,
which `keys` reads, or to those already taken while that one is itself merged. -/
def mergePairs (behind textKeys : Bool) (keys : Decoding (List Atom)) :
    List (Node × Node) → Filling → Decoding Filling
  | [], f => pure f
  | (k, v) :: ps, f => do
    if k.isMerge then
      match f.taken with
      | some _ => v.mergeInto behind textKeys f
      | none =>
        let ks ← keys
        let g ← v.mergeInto behind textKeys ⟨f.pairs, some ks⟩
        return ⟨g.pairs, none⟩
    else mergePairs behind textKeys keys ps f

def Node.mergeInto (behind textKeys : Bool) : Node → Filling → Decoding Filling
  | .mapping _ ps, f => do
    Decoding.meet behind
    if Node.keysDiffer ps then
      mergePairs behind textKeys (keyAtoms behind ps) ps (← fillPairs behind textKeys ps f)
    else
      Decoding.note
      return f
  | .alias _ n, f => do
    if n.isMapping then
      Decoding.meet behind
      n.mergeInto true textKeys f
    else Decoding.refuse
  | .sequence _ xs, f => mergeItems behind textKeys xs f
  | _, _ => Decoding.refuse

def mergeItems (behind textKeys : Bool) : List Node → Filling → Decoding Filling
  | [], f => pure f
  | x :: xs, f => do
    if x.isMergeable then mergeItems behind textKeys xs (← x.mergeInto behind textKeys f)
    else Decoding.refuse

end

/-- The pairs of a document that is a mapping, its keys read as texts; a null has none. -/
def Node.settings : Node → Decoding (List (Atom × Value))
  | .mapping _ ps => do
    Decoding.meet false
    Decoding.meet false
    if Node.keysDiffer ps then
      let f ← fillPairs false true ps ⟨[], none⟩
      return (← mergePairs false true (keyAtoms false ps) ps f).pairs
    else
      Decoding.note
      return []
  | .scalar tag text => do
    match ← Decoding.ofOption (atom? tag text) with
    | .null => return []
    | _ => Decoding.refuse
  | _ => Decoding.refuse

end Yaml

end CallAssist
