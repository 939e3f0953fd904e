import CallAssist.Text.Bytes

/-!
YAML documents as trees. An alias holds the tree it names; one that names a collection around it
cannot, and stands for a loop.
-/

namespace CallAssist

namespace Yaml

/-- A node with its tag in short form. -/
inductive Node where
  | scalar (tag text : Bytes)
  | sequence (tag : Bytes) (items : List Node)
  | mapping (tag : Bytes) (pairs : List (Node × Node))
  | alias (name : Bytes) (target : Node)
  | loop (name : Bytes)
  deriving Repr, Inhabited

namespace Tag

def string : Bytes := utf8 "!!str"

def null : Bytes := utf8 "!!null"

def bool : Bytes := utf8 "!!bool"

def int : Bytes := utf8 "!!int"

def float : Bytes := utf8 "!!float"

def time : Bytes := utf8 "!!timestamp"

def binary : Bytes := utf8 "!!binary"

def merge : Bytes := utf8 "!!merge"

def sequence : Bytes := utf8 "!!seq"

def mapping : Bytes := utf8 "!!map"

def standard : Bytes := utf8 "tag:yaml.org,2002:"

def short (t : Bytes) : Bytes :=
  match Bytes.dropFront? standard t with
  | some r => utf8 "!!" ++ r
  | none => t

end Tag

namespace Node

def tag : Node → Bytes
  | .scalar t _ => t
  | .sequence t _ => t
  | .mapping t _ => t
  | .alias _ n => n.tag
  | .loop _ => Tag.sequence

def isMerge : Node → Bool
  | .scalar t text => t == Tag.merge && text == utf8 "<<"
  | _ => false

def isMapping : Node → Bool
  | .mapping _ _ => true
  | _ => false

/-- What two keys of a mapping must not share: the kind of node and, for a scalar or an alias, its
text or name. -/
def keyMark : Node → Nat × Bytes
  | .scalar _ text => (0, text)
  | .sequence _ _ => (1, [])
  | .mapping _ _ => (2, [])
  | .alias name _ => (3, name)
  | .loop name => (3, name)

def keysDiffer (pairs : List (Node × Node)) : Bool :=
  go (pairs.map fun p => p.1.keyMark)
where
  go : List (Nat × Bytes) → Bool
    | [] => true
    | k :: ks => !ks.contains k && go ks

end Node

end Yaml

end CallAssist
