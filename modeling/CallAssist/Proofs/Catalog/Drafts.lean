import CallAssist.Catalog.Source
import CallAssist.Proofs.Json.Updates
import CallAssist.Proofs.Yaml.Shared
import Mathlib.Data.List.Nodup

/-! Catalogue sources written so that they are JSON and YAML at once, and the entries that each
format finds in them. A null in a list is an item for JSON and none for YAML. -/

namespace CallAssist

/-- A field of an entry as it is written; any value may be null. -/
inductive DraftField where
  | name (text : Option PlainText)
  | params (items : Option (List (Option PlainText)))
  | description (text : Option PlainText)
  deriving DecidableEq, Repr

namespace DraftField

def part : DraftField → Part
  | .name _ => .name
  | .params _ => .params
  | .description _ => .description

end DraftField

/-- An entry as it is written: its fields in any order, none of them twice. -/
structure DraftEntry where
  fields : List DraftField
  distinct : (fields.map DraftField.part).Nodup
  deriving DecidableEq, Repr

abbrev Draft := List (Option DraftEntry)

section Text

def PlainText.quotedOrNull (t : Option PlainText) : Bytes :=
  t.elim (utf8 "null") fun t => Json.quotes t.bytes

def DraftField.valueText : DraftField → Bytes
  | .name t => PlainText.quotedOrNull t
  | .params items =>
    items.elim (utf8 "null") fun ts => Json.arrayText (ts.map PlainText.quotedOrNull)
  | .description t => PlainText.quotedOrNull t

def DraftEntry.text (e : DraftEntry) : Bytes :=
  Json.objectText (e.fields.map fun f => (f.part.label, f.valueText))

def Draft.text (d : Draft) : Bytes :=
  Json.arrayText (d.map fun e => e.elim (utf8 "null") DraftEntry.text)

end Text

section Parts

/-- The parts of an entry, as they are written. -/
structure DraftParts where
  name : Option PlainText
  params : Option (List (Option PlainText))
  description : Option PlainText
  deriving DecidableEq, Repr

namespace DraftParts

def empty : DraftParts := ⟨none, none, none⟩

def fill (p : DraftParts) : DraftField → DraftParts
  | .name t => { p with name := t }
  | .params items => { p with params := items }
  | .description t => { p with description := t }

def entry (list : List (Option PlainText) → List Bytes) (p : DraftParts) : Entry :=
  ⟨p.name.map PlainText.bytes, p.params.map list, p.description.map PlainText.bytes⟩

end DraftParts

def DraftEntry.parts (e : DraftEntry) : DraftParts := e.fields.foldl DraftParts.fill .empty

def blankNulls (ts : List (Option PlainText)) : List Bytes :=
  ts.map fun t => t.elim [] PlainText.bytes

def dropNulls (ts : List (Option PlainText)) : List Bytes :=
  ts.filterMap (Option.map PlainText.bytes)

namespace Draft

def blanked (d : Draft) : List Entry :=
  d.map fun e => (e.elim .empty DraftEntry.parts).entry blankNulls

def dropped (d : Draft) : List Entry :=
  d.filterMap fun e => e.map fun e => e.parts.entry dropNulls

end Draft

end Parts

section Values

def PlainText.json (t : Option PlainText) : Json := t.elim .null fun t => .string t.bytes

def PlainText.node (t : Option PlainText) : Yaml.Node :=
  t.elim Yaml.nullNode fun t => .scalar Yaml.Tag.string t.bytes

def DraftField.json : DraftField → Json
  | .name t => PlainText.json t
  | .params items => items.elim .null fun ts => .array (ts.map PlainText.json)
  | .description t => PlainText.json t

def DraftField.node : DraftField → Yaml.Node
  | .name t => PlainText.node t
  | .params items =>
    items.elim Yaml.nullNode fun ts => .sequence Yaml.Tag.sequence (ts.map PlainText.node)
  | .description t => PlainText.node t

def DraftEntry.json (e : DraftEntry) : Json :=
  .object (e.fields.map fun f => (f.part.label, f.json))

def DraftField.pair (f : DraftField) : Yaml.Node × Yaml.Node :=
  (.scalar Yaml.Tag.string f.part.label, f.node)

def DraftEntry.node (e : DraftEntry) : Yaml.Node :=
  .mapping Yaml.Tag.mapping (e.fields.map DraftField.pair)

private theorem shared_quotedOrNull (inner : Nat) (t : Option PlainText) :
    Shared 1 inner (PlainText.quotedOrNull t) (PlainText.json t) (PlainText.node t) :=
  shared_option fun t => shared_text 1 inner t

private theorem DraftField.shared (f : DraftField) : Shared 1 1 f.valueText f.json f.node := by
  cases f with
  | name t => exact shared_quotedOrNull 1 t
  | params items =>
    exact shared_option fun ts => shared_array 1 fun t _ => shared_quotedOrNull 0 t
  | description t => exact shared_quotedOrNull 1 t

private theorem label_plain (p : Part) :
    p.label.all isPlainByte = true ∧ p.label.length + 2 ≤ 1024 := by
  cases p <;> decide

private theorem DraftEntry.shared (e : DraftEntry) : Shared 1 2 e.text e.json e.node :=
  shared_object 1 (fun f _ => label_plain f.part) fun f _ => f.shared

theorem Draft.shared (d : Draft) : Shared 0 3 d.text
    (.array (d.map fun e => e.elim .null DraftEntry.json))
    (.sequence Yaml.Tag.sequence (d.map fun e => e.elim Yaml.nullNode DraftEntry.node)) :=
  shared_array 0 fun _ _ => shared_option DraftEntry.shared

end Values

section Json

private theorem text_json (held : Bytes) (t : Option PlainText) :
    Json.Update.text held (PlainText.json t) = some (t.elim held PlainText.bytes) := by
  cases t with
  | none => rfl
  | some t => exact congrArg some (Json.textOfBody_of_plain t.plain)

private theorem optional_text_json (held : Option Bytes) (t : Option PlainText) :
    Json.Update.optional [] .text held (PlainText.json t) = some (t.map PlainText.bytes) := by
  cases t with
  | none => rfl
  | some t =>
    change (Json.Update.text (held.getD []) (PlainText.json (some t))).map some = _
    rw [text_json]
    rfl

private theorem optional_params_json (items : Option (List (Option PlainText))) :
    ∃ c, Json.Update.optional .empty (Json.Cells.update [] .text) none
        (DraftField.params items).json = some c ∧
      c.map Json.Cells.toList = items.map blankNulls := by
  cases items with
  | none => exact ⟨none, rfl, rfl⟩
  | some ts =>
    have hc := Json.Cells.update_empty fun t (_ : t ∈ ts) => text_json [] t
    refine ⟨some (.full (blankNulls ts)), ?_, congrArg some (Json.Cells.toList_full _)⟩
    change (Json.Cells.update [] .text .empty (.array (ts.map PlainText.json))).map some = _
    rw [hc]
    rfl

private theorem update_field {held : EntryCells} {p : DraftParts} (f : DraftField)
    (h : held.entry = p.entry blankNulls) (hp : f.part = .params → held.params = none)
    (fs : List (Bytes × Json)) :
    ∃ held', EntryCells.update held (.object ((f.part.label, f.json) :: fs)) =
        EntryCells.update held' (.object fs) ∧
      held'.entry = (p.fill f).entry blankNulls ∧
      (f.part ≠ .params → held'.params = held.params) := by
  obtain ⟨hname, hparams, hdescription⟩ := Entry.mk.inj h
  cases f with
  | name t =>
    refine ⟨{ held with name := t.map PlainText.bytes }, ?_, ?_, fun _ => rfl⟩
    · refine (Json.Update.record_member "name" EntryCells.name (fun e v => { e with name := v })
        (.optional [] .text) ?_ rfl held _ fs).trans ?_
      · exact Json.textOfBody_of_plain (label_plain .name).1
      · rw [DraftField.json, optional_text_json]
        rfl
    · rw [EntryCells.entry, hparams, hdescription]
      rfl
  | params items =>
    obtain ⟨c, hc, hlist⟩ := optional_params_json items
    refine ⟨{ held with params := c }, ?_, ?_, fun hne => absurd rfl hne⟩
    · refine (Json.Update.record_member "params" EntryCells.params
        (fun e v => { e with params := v }) (.optional .empty (Json.Cells.update [] .text))
        ?_ rfl held _ fs).trans ?_
      · exact Json.textOfBody_of_plain (label_plain .params).1
      · rw [hp rfl, hc]
        rfl
    · rw [EntryCells.entry, hlist, hname, hdescription]
      rfl
  | description t =>
    refine ⟨{ held with description := t.map PlainText.bytes }, ?_, ?_, fun _ => rfl⟩
    · refine (Json.Update.record_member "description" EntryCells.description
        (fun e v => { e with description := v }) (.optional [] .text) ?_ rfl held _ fs).trans ?_
      · exact Json.textOfBody_of_plain (label_plain .description).1
      · rw [DraftField.json, optional_text_json]
        rfl
    · rw [EntryCells.entry, hname, hparams]
      rfl

private theorem update_fields {fs : List DraftField} (hfs : (fs.map DraftField.part).Nodup) :
    ∀ {held : EntryCells} {p : DraftParts}, held.entry = p.entry blankNulls →
      (.params ∈ fs.map DraftField.part → held.params = none) →
      ∃ held', EntryCells.update held (.object (fs.map fun f => (f.part.label, f.json))) =
        some held' ∧ held'.entry = (fs.foldl DraftParts.fill p).entry blankNulls := by
  induction fs with
  | nil =>
    intro held p h _
    exact ⟨held, rfl, h⟩
  | cons f fs ih =>
    intro held p h hp
    obtain ⟨hf, hfs⟩ := List.nodup_cons.mp hfs
    obtain ⟨held₁, hstep, h₁, hkeep⟩ := update_field f h
      (fun hpart => hp (hpart ▸ List.mem_cons_self)) (fs.map fun f => (f.part.label, f.json))
    have hp₁ : .params ∈ fs.map DraftField.part → held₁.params = none := by
      intro hm
      rw [hkeep fun hpart => hf (hpart ▸ hm)]
      exact hp (List.mem_cons_of_mem _ hm)
    obtain ⟨held', hrest, h'⟩ := ih hfs h₁ hp₁
    exact ⟨held', hstep.trans hrest, h'⟩

/-- JSON finds an entry for each item of the source. -/
theorem Draft.json_entries (d : Draft) :
    Format.entries d.text .json = .ok (some d.blanked) := by
  have hentry (e : Option DraftEntry) :
      ∃ cells, EntryCells.update .fresh (e.elim .null DraftEntry.json) = some cells ∧
        cells.entry = (e.elim .empty DraftEntry.parts).entry blankNulls := by
    cases e with
    | none => exact ⟨.fresh, rfl, rfl⟩
    | some e => exact update_fields e.distinct rfl fun _ => rfl
  choose cells hcells hentries using hentry
  have hc := Json.Cells.update_empty fun e (_ : e ∈ d) => hcells e
  have hread : Json.entries? (.array (d.map fun e => e.elim .null DraftEntry.json)) =
      some (some d.blanked) := by
    change (Json.Cells.update _ _ .empty (.array _)).map _ = _
    rw [hc, Option.map_some, Json.Cells.toList_full, List.map_map]
    exact congrArg (fun es => some (some es)) (List.map_congr_left fun e _ => hentries e)
  rw [Format.entries, d.shared.json_parse (by decide), Option.bind_some, hread]

end Json

namespace Yaml

private def Yields {α : Type} (d : Decoding α) (a : α) : Prop :=
  ∀ e : Effort, e.aliased = 0 → ∃ e', d e = .ok (a, e') ∧ e'.aliased = 0 ∧ e'.flawed = e.flawed

private theorem yields_pure {α : Type} (a : α) : Yields (pure a) a :=
  fun e he => ⟨e, rfl, he, rfl⟩

private theorem Yields.bind {α β : Type} {d : Decoding α} {a : α} {f : α → Decoding β} {b : β}
    (h : Yields d a) (hf : Yields (f a) b) : Yields (d >>= f) b := by
  intro e he
  obtain ⟨e₁, h₁, he₁, hflaw₁⟩ := h e he
  obtain ⟨e₂, h₂, he₂, hflaw₂⟩ := hf e₁ he₁
  refine ⟨e₂, ?_, he₂, hflaw₂.trans hflaw₁⟩
  change (d e).bind _ = _
  rw [h₁]
  exact h₂

private theorem yields_meet : Yields (Decoding.meet false) () := by
  intro e he
  refine ⟨{ e with steps := e.steps + 1 }, ?_, he, rfl⟩
  simp [Decoding.meet, Effort.isExcessive, he]

private theorem Yields.result {α : Type} {d : Decoding α} {a : α} (h : Yields d a) :
    d.result = .ok a := by
  obtain ⟨e, hd, _, hflaw⟩ := h .none rfl
  have hflaw : e.flawed = false := hflaw
  simp [Decoding.result, hd, hflaw]

private theorem yields_text (t : Option PlainText) :
    Yields ((PlainText.node t).text false) (t.map PlainText.bytes) := by
  cases t with
  | none => exact yields_meet.bind (yields_pure _)
  | some t => exact yields_meet.bind (yields_pure _)

private theorem yields_onlyNull {α : Type} :
    Yields (onlyNull Tag.null (utf8 "null") : Decoding (Option α)) none := yields_pure none

private theorem yields_itemTexts (ts : List (Option PlainText)) :
    Yields (itemTexts false (ts.map PlainText.node)) (dropNulls ts) := by
  induction ts with
  | nil => exact yields_pure []
  | cons t ts ih =>
    have hdrop : dropNulls (t :: ts) = (t.map PlainText.bytes).toList ++ dropNulls ts := by
      cases t <;> rfl
    rw [hdrop]
    exact (yields_text t).bind (ih.bind (yields_pure _))

private theorem yields_setPart (f : DraftField) (p : DraftParts) :
    Yields (f.node.setPart false f.part (p.entry dropNulls)) ((p.fill f).entry dropNulls) := by
  cases f with
  | name t => exact (yields_text t).bind (yields_pure _)
  | params items =>
    refine Yields.bind (a := items.map dropNulls) ?_ (yields_pure _)
    cases items with
    | none => exact yields_meet.bind yields_onlyNull
    | some ts => exact yields_meet.bind ((yields_itemTexts ts).bind (yields_pure _))
  | description t => exact (yields_text t).bind (yields_pure _)

private theorem part?_label (p : Part) : part? p.label = some p := by
  cases p <;> decide

private theorem isMerge_label (t : Bytes) : (Node.scalar Tag.string t).isMerge = false := by
  have h : (Tag.string == Tag.merge) = false := by decide
  simp [Node.isMerge, h]

private theorem yields_fillParts {fs : List DraftField} :
    ∀ {set : List Part} {p : DraftParts}, (fs.map DraftField.part).Nodup →
      (∀ f ∈ fs, f.part ∉ set) →
      Yields (fillParts false set (fs.map DraftField.pair) ⟨p.entry dropNulls, none⟩)
        ⟨(fs.foldl DraftParts.fill p).entry dropNulls, none⟩ := by
  induction fs with
  | nil => exact fun _ _ => yields_pure _
  | cons f fs ih =>
    intro set p hfs hset
    obtain ⟨hf, hfs⟩ := List.nodup_cons.mp hfs
    obtain ⟨hnew, hset⟩ := List.forall_mem_cons.mp hset
    have hset' : ∀ g ∈ fs, g.part ∉ f.part :: set := by
      intro g hg hm
      rcases List.mem_cons.mp hm with hm | hm
      · exact hf (hm ▸ List.mem_map_of_mem hg)
      · exact hset g hg hm
    have hkey : Yields ((Node.scalar Tag.string f.part.label).text false) (some f.part.label) :=
      yields_meet.bind (yields_pure _)
    rw [List.map_cons, DraftField.pair, fillParts]
    simp only [isMerge_label, Bool.false_eq_true, if_false]
    refine hkey.bind ?_
    simp only [Option.getD_none, List.contains_eq_mem, List.not_mem_nil, decide_false,
      Bool.false_eq_true, if_false, part?_label, hnew, Option.map_none, List.foldl_cons]
    exact (yields_setPart f p).bind (ih hfs hset')

private theorem yields_mergeParts (all : List (Node × Node)) (fs : List DraftField)
    (f : EntryFilling) : Yields (mergeParts false all (fs.map DraftField.pair) f) f := by
  induction fs with
  | nil => exact yields_pure f
  | cons g fs ih =>
    rw [List.map_cons, DraftField.pair, mergeParts]
    simpa only [isMerge_label, Bool.false_eq_true, if_false] using ih

private theorem keysDiffer_pairs {fs : List DraftField} (h : (fs.map DraftField.part).Nodup) :
    Node.keysDiffer (fs.map DraftField.pair) = true := by
  have hgo : ∀ {ks : List (Nat × Bytes)}, ks.Nodup → Node.keysDiffer.go ks = true := by
    intro ks hks
    induction ks with
    | nil => rfl
    | cons k ks ih =>
      obtain ⟨hk, hks⟩ := List.nodup_cons.mp hks
      simp [Node.keysDiffer.go, hk, ih hks]
  have hinj : Function.Injective fun p : Part => (0, p.label) := by
    intro p q hpq
    have hlabel : p.label = q.label := (Prod.mk.inj hpq).2
    exact Option.some.inj ((part?_label p).symm.trans (hlabel ▸ part?_label q))
  refine hgo ?_
  rw [List.map_map]
  have hmarks := List.Nodup.map hinj h
  rwa [List.map_map] at hmarks

private theorem yields_entry (e : Option DraftEntry) :
    Yields ((e.elim nullNode DraftEntry.node).entry false)
      (e.map fun e => e.parts.entry dropNulls) := by
  cases e with
  | none => exact yields_meet.bind yields_onlyNull
  | some e =>
    refine yields_meet.bind ?_
    rw [keysDiffer_pairs e.distinct]
    refine Yields.bind (yields_fillParts (p := .empty) e.distinct fun _ _ => List.not_mem_nil) ?_
    exact (yields_mergeParts _ _ _).bind (yields_pure _)

private theorem yields_itemEntries (d : Draft) :
    Yields (Node.itemEntries (d.map fun e => e.elim nullNode DraftEntry.node)) d.dropped := by
  induction d with
  | nil => exact yields_pure []
  | cons e d ih =>
    have hdrop : Draft.dropped (e :: d) =
        (e.map fun e => e.parts.entry dropNulls).toList ++ Draft.dropped d := by
      cases e <;> rfl
    rw [hdrop]
    exact (yields_entry e).bind (ih.bind (yields_pure _))

private theorem yields_entries (d : Draft) :
    Yields (Node.entries (.sequence Tag.sequence
      (d.map fun e => e.elim nullNode DraftEntry.node))) (some d.dropped) :=
  yields_meet.bind (yields_meet.bind ((yields_itemEntries d).bind (yields_pure _)))

end Yaml

/-- YAML finds an entry for each item of the source that is not null. -/
theorem Draft.yaml_entries (d : Draft) :
    Format.entries d.text .yaml = .ok (some d.dropped) := by
  rw [Format.entries, Yaml.read, d.shared.yaml_parse (by decide)]
  simp only [(Yaml.yields_entries d).result]

end CallAssist
