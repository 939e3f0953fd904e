import CallAssist.Yaml.Failure
import CallAssist.Yaml.Scalar
import CallAssist.Yaml.Token

/-!
Trees from tokens. Each function returns what it built, the tokens after it and the anchors known
by then; none when the tokens do not fit or are used up.
-/

namespace CallAssist

namespace Yaml

/-- The anchors met so far: names with the number of the node they were last given to, and the
nodes that are complete. -/
structure Anchors where
  names : List (Bytes × Nat)
  nodes : List (Nat × Node)

namespace Anchors

def empty : Anchors := ⟨[], []⟩

def name (as : Anchors) (n : Bytes) : Anchors :=
  { as with names := (n, as.names.length) :: as.names }

def complete (as : Anchors) (number : Nat) (n : Node) : Anchors :=
  { as with nodes := (number, n) :: as.nodes }

def alias? (as : Anchors) (n : Bytes) : Option Node :=
  (as.names.lookup n).map fun number => match as.nodes.lookup number with
    | some node => .alias n node
    | none => .loop n

end Anchors

/-- What may stand in front of a node. -/
structure Properties where
  anchor : Option Bytes
  tag : Option Bytes

def expandTag (handles : List (Bytes × Bytes)) (handle suffix : Bytes) : Option Bytes :=
  if handle.isEmpty then some suffix else (handles.lookup handle).map (· ++ suffix)

def properties (handles : List (Bytes × Bytes)) :
    List Token → Option (Properties × List Token)
  | .anchor a :: .tag h s :: ts => (expandTag handles h s).map fun t => (⟨some a, some t⟩, ts)
  | .tag h s :: .anchor a :: ts => (expandTag handles h s).map fun t => (⟨some a, some t⟩, ts)
  | .anchor a :: ts => some (⟨some a, none⟩, ts)
  | .tag h s :: ts => (expandTag handles h s).map fun t => (⟨none, some t⟩, ts)
  | ts => some (⟨none, none⟩, ts)

namespace Properties

/-- The tag that was asked for, in short form; a lone exclamation mark asks for none. -/
def explicitTag (p : Properties) : Option Bytes :=
  match p.tag with
  | some t => if t == utf8 "!" then none else some (Tag.short t)
  | none => none

def tagOr (p : Properties) (default : Bytes) : Bytes := p.explicitTag.getD default

def scalar (p : Properties) (plain : Bool) (text : Bytes) : Node :=
  .scalar (p.tagOr (if plain then plainTag text else Tag.string)) text

def isEmpty (p : Properties) : Bool := p.anchor.isNone && p.tag.isNone

end Properties

def emptyNode : Node := .scalar Tag.null []

abbrev Composed (α : Type) := Option (α × List Token × Anchors)

def isMissing (stops : List Token) : List Token → Bool
  | t :: _ => stops.contains t
  | [] => false

mutual

def composeNode (handles : List (Bytes × Bytes)) :
    Nat → Bool → Bool → List Token → Anchors → Composed Node
  | 0, _, _, _, _ => none
  | _ + 1, _, _, .alias name :: ts, as => (as.alias? name).map fun n => (n, ts, as)
  | fuel + 1, block, indentless, ts, as =>
    match properties handles ts with
    | none => none
    | some (p, ts) =>
      let number := as.names.length
      let named := match p.anchor with
        | some a => as.name a
        | none => as
      match composeContent handles fuel block indentless p ts named with
      | none => none
      | some (n, ts, as) =>
        some (n, ts, if p.anchor.isSome then as.complete number n else as)

def composeContent (handles : List (Bytes × Bytes)) :
    Nat → Bool → Bool → Properties → List Token → Anchors → Composed Node
  | 0, _, _, _, _, _ => none
  | _ + 1, _, _, _, [], _ => none
  | fuel + 1, block, indentless, p, t :: ts, as =>
    match t with
    | .scalar plain text => some (p.scalar plain text, ts, as)
    | .flowSequenceStart =>
      (composeFlowItems handles fuel true ts as).map fun (xs, ts, as) =>
        (.sequence (p.tagOr Tag.sequence) xs, ts, as)
    | .flowMappingStart =>
      (composeFlowPairs handles fuel true ts as).map fun (ps, ts, as) =>
        (.mapping (p.tagOr Tag.mapping) ps, ts, as)
    | _ =>
      if t == .blockEntry && indentless then
        (composeIndentless handles fuel (t :: ts) as).map fun (xs, ts, as) =>
          (.sequence (p.tagOr Tag.sequence) xs, ts, as)
      else if t == .blockSequenceStart && block then
        (composeItems handles fuel ts as).map fun (xs, ts, as) =>
          (.sequence (p.tagOr Tag.sequence) xs, ts, as)
      else if t == .blockMappingStart && block then
        (composePairs handles fuel ts as).map fun (ps, ts, as) =>
          (.mapping (p.tagOr Tag.mapping) ps, ts, as)
      else if p.isEmpty then none
      else some (p.scalar true [], t :: ts, as)

def composeOptional (handles : List (Bytes × Bytes)) :
    Nat → Bool → Bool → List Token → List Token → Anchors → Composed Node
  | 0, _, _, _, _, _ => none
  | fuel + 1, block, indentless, stops, ts, as =>
    if isMissing stops ts then some (emptyNode, ts, as)
    else composeNode handles fuel block indentless ts as

def composeItems (handles : List (Bytes × Bytes)) :
    Nat → List Token → Anchors → Composed (List Node)
  | 0, _, _ => none
  | fuel + 1, .blockEntry :: ts, as =>
    match composeOptional handles fuel true false [.blockEntry, .blockEnd] ts as with
    | none => none
    | some (x, ts, as) =>
      (composeItems handles fuel ts as).map fun (xs, ts, as) => (x :: xs, ts, as)
  | _ + 1, .blockEnd :: ts, as => some ([], ts, as)
  | _ + 1, _, _ => none

def composeIndentless (handles : List (Bytes × Bytes)) :
    Nat → List Token → Anchors → Composed (List Node)
  | 0, _, _ => none
  | _ + 1, [], _ => none
  | fuel + 1, .blockEntry :: ts, as =>
    match composeOptional handles fuel true false [.blockEntry, .key, .value, .blockEnd] ts as with
    | none => none
    | some (x, ts, as) =>
      (composeIndentless handles fuel ts as).map fun (xs, ts, as) => (x :: xs, ts, as)
  | _ + 1, ts, as => some ([], ts, as)

/-- The value of a block pair; a key may stand without one. -/
def composeValue (handles : List (Bytes × Bytes)) :
    Nat → List Token → Anchors → Composed Node
  | 0, _, _ => none
  | _ + 1, [], _ => none
  | fuel + 1, .value :: ts, as =>
    composeOptional handles fuel true true [.key, .value, .blockEnd] ts as
  | _ + 1, ts, as => some (emptyNode, ts, as)

def composePairs (handles : List (Bytes × Bytes)) :
    Nat → List Token → Anchors → Composed (List (Node × Node))
  | 0, _, _ => none
  | fuel + 1, .key :: ts, as =>
    match composeOptional handles fuel true true [.key, .value, .blockEnd] ts as with
    | none => none
    | some (k, ts, as) =>
      match composeValue handles fuel ts as with
      | none => none
      | some (v, ts, as) =>
        (composePairs handles fuel ts as).map fun (ps, ts, as) => ((k, v) :: ps, ts, as)
  | _ + 1, .blockEnd :: ts, as => some ([], ts, as)
  | _ + 1, _, _ => none

/-- The value of a pair in a flow collection; `stops` ends it. -/
def composeFlowValue (handles : List (Bytes × Bytes)) :
    Nat → List Token → List Token → Anchors → Composed Node
  | 0, _, _, _ => none
  | _ + 1, _, [], _ => none
  | fuel + 1, stops, .value :: ts, as => composeOptional handles fuel false false stops ts as
  | _ + 1, _, ts, as => some (emptyNode, ts, as)

/-- The items of a flow sequence. A key makes a mapping of one pair; where that key is missing, the
token in its place is passed over. -/
def composeFlowItems (handles : List (Bytes × Bytes)) :
    Nat → Bool → List Token → Anchors → Composed (List Node)
  | 0, _, _, _ => none
  | _ + 1, _, [], _ => none
  | fuel + 1, first, t :: ts, as =>
    if t == .flowSequenceEnd then some ([], ts, as)
    else if !first && t != .flowEntry then none
    else
      match if first then t :: ts else ts with
      | [] => none
      | .flowSequenceEnd :: ts => some ([], ts, as)
      | .key :: ts =>
        let key : Composed Node :=
          if isMissing [.value, .flowEntry, .flowSequenceEnd] ts then
            some (emptyNode, ts.drop 1, as)
          else composeNode handles fuel false false ts as
        match key with
        | none => none
        | some (k, ts, as) =>
          match composeFlowValue handles fuel [.flowEntry, .flowSequenceEnd] ts as with
          | none => none
          | some (v, ts, as) =>
            (composeFlowItems handles fuel false ts as).map fun (xs, ts, as) =>
              (.mapping Tag.mapping [(k, v)] :: xs, ts, as)
      | ts =>
        match composeNode handles fuel false false ts as with
        | none => none
        | some (x, ts, as) =>
          (composeFlowItems handles fuel false ts as).map fun (xs, ts, as) => (x :: xs, ts, as)

def composeFlowPairs (handles : List (Bytes × Bytes)) :
    Nat → Bool → List Token → Anchors → Composed (List (Node × Node))
  | 0, _, _, _ => none
  | _ + 1, _, [], _ => none
  | fuel + 1, first, t :: ts, as =>
    if t == .flowMappingEnd then some ([], ts, as)
    else if !first && t != .flowEntry then none
    else
      match if first then t :: ts else ts with
      | [] => none
      | .flowMappingEnd :: ts => some ([], ts, as)
      | .key :: ts =>
        match composeOptional handles fuel false false [.value, .flowEntry, .flowMappingEnd] ts as
          with
        | none => none
        | some (k, ts, as) =>
          match composeFlowValue handles fuel [.flowEntry, .flowMappingEnd] ts as with
          | none => none
          | some (v, ts, as) =>
            (composeFlowPairs handles fuel false ts as).map fun (ps, ts, as) =>
              ((k, v) :: ps, ts, as)
      | ts =>
        match composeNode handles fuel false false ts as with
        | none => none
        | some (k, ts, as) =>
          (composeFlowPairs handles fuel false ts as).map fun (ps, ts, as) =>
            ((k, emptyNode) :: ps, ts, as)

end

def standardHandles : List (Bytes × Bytes) :=
  [(utf8 "!", utf8 "!"), (utf8 "!!", Tag.standard)]

/-- The handles declared in front of a document. A handle is declared once and the version, 1.1, at
most once. -/
def readDirectives : Bool → List (Bytes × Bytes) → List Token →
    Option (List (Bytes × Bytes) × List Token)
  | versioned, handles, .versionDirective major minor :: ts =>
    if versioned || major != 1 || minor != 1 then none else readDirectives true handles ts
  | versioned, handles, .tagDirective h u :: ts =>
    if (handles.lookup h).isSome then none
    else readDirectives versioned (handles ++ [(h, u)]) ts
  | _, handles, ts => some (handles, ts)

def composeExplicit (handles : List (Bytes × Bytes)) (fuel : Nat) (ts : List Token) :
    Composed Node :=
  match ts with
  | [] => none
  | .versionDirective _ _ :: _ => some (emptyNode, ts, .empty)
  | .tagDirective _ _ :: _ => some (emptyNode, ts, .empty)
  | .documentStart :: _ => some (emptyNode, ts, .empty)
  | .documentEnd :: _ => some (emptyNode, ts, .empty)
  | .streamEnd :: _ => some (emptyNode, ts, .empty)
  | _ => composeNode handles fuel true false ts .empty

def composeDocument (ts : List Token) : Option Node :=
  let fuel := 4 * ts.length + 4
  let content : Composed Node :=
    match ts with
    | .versionDirective _ _ :: _ | .tagDirective _ _ :: _ | .documentStart :: _ =>
      match readDirectives false [] ts with
      | some (handles, .documentStart :: ts) =>
        composeExplicit (handles ++ standardHandles) fuel ts
      | _ => none
    | ts => composeNode standardHandles fuel true false ts .empty
  match content with
  | some (n, _ :: _, _) => some n
  | _ => none

def Node.ofTokens : List Token → Except Failure Node
  | .streamEnd :: _ => .error .empty
  | ts => match composeDocument ts with
    | some n => .ok n
    | none => .error .malformed

end Yaml

end CallAssist
