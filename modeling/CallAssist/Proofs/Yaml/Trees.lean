import CallAssist.Proofs.Yaml.Flow
import CallAssist.Yaml

/-! The trees of flow collections. A node is composed from its own tokens and leaves what follows
them. -/

namespace CallAssist

namespace Yaml

/-- A token that a node of a flow collection starts with. -/
inductive StartsNode : Token → Prop where
  | scalar (plain : Bool) (text : Bytes) : StartsNode (.scalar plain text)
  | sequence : StartsNode .flowSequenceStart
  | mapping : StartsNode .flowMappingStart

/-- Tokens that make up a node, whatever follows them. -/
structure Composes (ts : List Token) (v : Node) : Prop where
  starts : ∃ t ∈ ts.head?, StartsNode t
  compose : ∀ {handles : List (Bytes × Bytes)} {fuel : Nat} {block indentless : Bool}
    {rest : List Token} {as : Anchors}, 2 * ts.length ≤ fuel →
    composeNode handles fuel block indentless (ts ++ rest) as = some (v, rest, as)

variable {handles : List (Bytes × Bytes)} {fuel : Nat} {block indentless : Bool} {rest : List Token}
  {as : Anchors}

private theorem composeNode_eq {t : Token} (ht : StartsNode t) {ts : List Token} :
    composeNode handles (fuel + 1) block indentless (t :: ts) as =
      composeContent handles fuel block indentless ⟨none, none⟩ (t :: ts) as := by
  cases ht
  all_goals
    rw [composeNode]
    · simp only [properties]
      split
      · next h => rw [h]
      · next n ts as h =>
        rw [h]
        rfl
    · intro name ts h
      cases h

theorem composes_scalar (plain : Bool) (text : Bytes) :
    Composes [.scalar plain text]
      (.scalar (if plain then plainTag text else Tag.string) text) where
  starts := ⟨_, rfl, .scalar plain text⟩
  compose {handles fuel block indentless rest as} hf := by
    obtain ⟨fuel, rfl⟩ := Nat.exists_eq_add_of_le hf
    rw [List.singleton_append, List.length_singleton, Nat.add_comm]
    rw [composeNode_eq (.scalar plain text), composeContent]
    rfl

section Members

private def lead (first : Bool) : List Token := if first then [] else [.flowEntry]

private def Takes {α : Type} (read : Nat → Bool → List Token → Anchors → Composed (List α))
    (ts : List Token) (a : α) : Prop :=
  ts ≠ [] ∧ ∀ {fuel : Nat} (first : Bool) (rest : List Token) (as : Anchors), 2 * ts.length ≤ fuel →
    read (fuel + 1) first (lead first ++ (ts ++ rest)) as =
      (read fuel false rest as).map fun (xs, ts, as) => (a :: xs, ts, as)

variable {α β : Type} {read : Nat → Bool → List Token → Anchors → Composed (List α)}
  {close : Token} {ms : List β} {toks : β → List Token} {value : β → α}

private theorem read_rest
    (hclose : ∀ fuel first rest as, read (fuel + 1) first (close :: rest) as = some ([], rest, as))
    (hms : ∀ m ∈ ms, Takes read (toks m) (value m)) :
    ∀ {fuel : Nat}, 2 * (ms.flatMap fun m => .flowEntry :: toks m).length < fuel →
      read fuel false (ms.flatMap (fun m => .flowEntry :: toks m) ++ close :: rest) as =
        some (ms.map value, rest, as) := by
  induction ms with
  | nil =>
    intro fuel hf
    obtain ⟨fuel, rfl⟩ := Nat.exists_eq_add_one.mpr (Nat.zero_lt_of_lt hf)
    exact hclose fuel false rest as
  | cons m ms ih =>
    intro fuel hf
    obtain ⟨fuel, rfl⟩ := Nat.exists_eq_add_one.mpr (Nat.zero_lt_of_lt hf)
    obtain ⟨hm, hms⟩ := List.forall_mem_cons.mp hms
    simp only [List.flatMap_cons, List.length_append, List.length_cons] at hf
    rw [List.flatMap_cons, List.cons_append, List.cons_append, List.append_assoc]
    refine (hm.2 false _ as (by omega)).trans ?_
    rw [ih hms (by omega)]
    rfl

private theorem read_members
    (hclose : ∀ fuel first rest as, read (fuel + 1) first (close :: rest) as = some ([], rest, as))
    (hms : ∀ m ∈ ms, Takes read (toks m) (value m))
    (hf : 2 * ([.flowEntry].intercalate (ms.map toks)).length < fuel) :
    read fuel true ([.flowEntry].intercalate (ms.map toks) ++ close :: rest) as =
      some (ms.map value, rest, as) := by
  obtain ⟨fuel, rfl⟩ := Nat.exists_eq_add_one.mpr (Nat.zero_lt_of_lt hf)
  cases ms with
  | nil => exact hclose fuel true rest as
  | cons m ms =>
    obtain ⟨hm, hms⟩ := List.forall_mem_cons.mp hms
    simp only [List.map_cons, Bytes.intercalate_cons, List.flatMap_map, List.length_append,
      List.singleton_append] at hf ⊢
    have hpos : 0 < (toks m).length := List.length_pos_iff.mpr hm.1
    rw [List.append_assoc]
    refine (hm.2 true _ as (by omega)).trans ?_
    rw [read_rest hclose hms (by omega)]
    rfl

end Members

section Collections

variable {ts : List Token} {v : Node}

private theorem Composes.cons (h : Composes ts v) : ∃ t us, ts = t :: us ∧ StartsNode t := by
  obtain ⟨t, ht, hs⟩ := h.starts
  obtain ⟨us, hus⟩ := List.head?_eq_some_iff.mp ht
  exact ⟨t, us, hus, hs⟩

private theorem Composes.takes_item (h : Composes ts v) :
    Takes (composeFlowItems handles) ts v := by
  obtain ⟨t, us, rfl, ht⟩ := h.cons
  refine ⟨List.cons_ne_nil t us, fun {fuel} first rest as hf => ?_⟩
  have hv : composeNode handles fuel false false (t :: (us ++ rest)) as = some (v, rest, as) :=
    h.compose hf
  cases first with
  | true =>
    change composeFlowItems handles (fuel + 1) true (t :: (us ++ rest)) as = _
    cases ht
    all_goals
      rw [composeFlowItems]
      simp [hv]
  | false =>
    change composeFlowItems handles (fuel + 1) false (.flowEntry :: t :: (us ++ rest)) as = _
    cases ht
    all_goals
      rw [composeFlowItems]
      simp [hv]

theorem composes_sequence {α : Type} {ms : List α} {toks : α → List Token} {node : α → Node}
    (hms : ∀ m ∈ ms, Composes (toks m) (node m)) :
    Composes (.flowSequenceStart :: ([.flowEntry].intercalate (ms.map toks) ++
      [.flowSequenceEnd])) (.sequence Tag.sequence (ms.map node)) where
  starts := ⟨_, rfl, .sequence⟩
  compose {handles fuel block indentless rest as} hf := by
    rw [List.length_cons, List.length_append, List.length_singleton] at hf
    obtain ⟨fuel, rfl⟩ : ∃ n, fuel = n + 1 + 1 := ⟨fuel - 2, by omega⟩
    have hclose (fuel : Nat) (first : Bool) (rest : List Token) (as : Anchors) :
        composeFlowItems handles (fuel + 1) first (.flowSequenceEnd :: rest) as =
          some ([], rest, as) := by
      simp [composeFlowItems]
    rw [List.cons_append, List.append_assoc, List.singleton_append, composeNode_eq .sequence,
      composeContent]
    simp only [read_members hclose (fun m hm => (hms m hm).takes_item) (show _ < fuel by omega)]
    rfl

def fieldTokens (key : Bytes) (ts : List Token) : List Token :=
  .key :: .scalar false key :: .value :: ts

private theorem composeOptional_eq (h : Composes ts v) {stops : List Token}
    (hstops : ∀ t ∈ stops, ¬ StartsNode t) (hf : 2 * ts.length ≤ fuel) :
    composeOptional handles (fuel + 1) block indentless stops (ts ++ rest) as =
      some (v, rest, as) := by
  have hmissing : isMissing stops (ts ++ rest) = false := by
    obtain ⟨t, us, rfl, ht⟩ := h.cons
    have : t ∉ stops := fun hm => hstops t hm ht
    simpa [isMissing] using this
  rw [composeOptional, hmissing]
  exact h.compose hf

private theorem Composes.takes_field (h : Composes ts v) (key : Bytes) :
    Takes (composeFlowPairs handles) (fieldTokens key ts) (.scalar Tag.string key, v) := by
  refine ⟨List.cons_ne_nil _ _, fun {fuel} first rest as hf => ?_⟩
  simp only [fieldTokens, List.length_cons] at hf
  obtain ⟨fuel, rfl⟩ : ∃ n, fuel = n + 1 + 1 := ⟨fuel - 2, by omega⟩
  have hstops : ∀ t ∈ [Token.value, .flowEntry, .flowMappingEnd], ¬ StartsNode t := by
    simp only [List.forall_mem_cons, List.not_mem_nil, false_imp_iff, implies_true, and_true]
    exact ⟨nofun, nofun, nofun⟩
  have hkey : composeOptional handles (fuel + 1 + 1) false false
      [.value, .flowEntry, .flowMappingEnd] (.scalar false key :: .value :: (ts ++ rest)) as =
      some (.scalar Tag.string key, .value :: (ts ++ rest), as) :=
    composeOptional_eq (composes_scalar false key) hstops (by rw [List.length_singleton]; omega)
  have hvalue : composeFlowValue handles (fuel + 1 + 1) [.flowEntry, .flowMappingEnd]
      (.value :: (ts ++ rest)) as = some (v, rest, as) := by
    rw [composeFlowValue]
    exact composeOptional_eq h (fun t ht => hstops t (List.mem_cons_of_mem _ ht)) (by omega)
  cases first with
  | true =>
    change composeFlowPairs handles (fuel + 1 + 1 + 1) true
      (.key :: .scalar false key :: .value :: (ts ++ rest)) as = _
    rw [composeFlowPairs]
    simp [hkey, hvalue]
  | false =>
    change composeFlowPairs handles (fuel + 1 + 1 + 1) false
      (.flowEntry :: .key :: .scalar false key :: .value :: (ts ++ rest)) as = _
    rw [composeFlowPairs]
    simp [hkey, hvalue]

theorem composes_mapping {α : Type} {fs : List α} {key : α → Bytes} {toks : α → List Token}
    {node : α → Node} (hfs : ∀ f ∈ fs, Composes (toks f) (node f)) :
    Composes (.flowMappingStart :: ([.flowEntry].intercalate
        (fs.map fun f => fieldTokens (key f) (toks f)) ++ [.flowMappingEnd]))
      (.mapping Tag.mapping (fs.map fun f => (.scalar Tag.string (key f), node f))) where
  starts := ⟨_, rfl, .mapping⟩
  compose {handles fuel block indentless rest as} hf := by
    rw [List.length_cons, List.length_append, List.length_singleton] at hf
    obtain ⟨fuel, rfl⟩ : ∃ n, fuel = n + 1 + 1 := ⟨fuel - 2, by omega⟩
    have hclose (fuel : Nat) (first : Bool) (rest : List Token) (as : Anchors) :
        composeFlowPairs handles (fuel + 1) first (.flowMappingEnd :: rest) as =
          some ([], rest, as) := by
      simp [composeFlowPairs]
    rw [List.cons_append, List.append_assoc, List.singleton_append, composeNode_eq .mapping,
      composeContent]
    simp only [read_members hclose (fun f hf => (hfs f hf).takes_field (key f))
      (show _ < fuel by omega)]
    rfl

end Collections

/-- Tokens that make up a node make up the first document. -/
theorem ofTokens_of_composes {ts : List Token} {v : Node} (h : Composes ts v) :
    Node.ofTokens (ts ++ [.streamEnd]) = .ok v := by
  have hnode : composeNode standardHandles (4 * (ts ++ [Token.streamEnd]).length + 4) true false
      (ts ++ [.streamEnd]) .empty = some (v, [.streamEnd], .empty) := by
    refine h.compose ?_
    rw [List.length_append]
    omega
  obtain ⟨t, us, rfl, ht⟩ := h.cons
  rw [List.cons_append] at hnode ⊢
  have hdocument : composeDocument (t :: (us ++ [.streamEnd])) = some v := by
    unfold composeDocument
    cases ht
    all_goals
      simp only
      rw [hnode]
  cases ht
  all_goals
    unfold Node.ofTokens
    simp only [hdocument]

/-- A printable text is read as the tree of the tokens it comes out as. -/
theorem parse_eq {t : Bytes} {ts : List Token} {v : Node} (hprint : ∀ b ∈ t, isPrintable b = true)
    (hl : Scanner.Lexes 0 true (t.map charOf) ts) (hc : Composes ts v) : parse t = .ok v := by
  rw [parse, Scanner.tokens_eq hprint hl, ofTokens_of_composes hc]

end Yaml

end CallAssist
