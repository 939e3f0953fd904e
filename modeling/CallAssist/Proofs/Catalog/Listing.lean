import CallAssist.Command.Run
import CallAssist.Proofs.Catalog.Entries
import CallAssist.Proofs.Json.Spacing
import CallAssist.Proofs.Json.Updates

/-!
Listings that are catalogues again. What is listed of a catalogue as JSON loads as the catalogue of
the functions that were listed, whatever is in their texts.
-/

namespace CallAssist

open Json

namespace Function

def IsUtf8 (f : Function) : Prop :=
  ∀ t ∈ f.name :: f.description :: f.params, Bytes.isUtf8 t = true

instance (f : Function) : Decidable f.IsUtf8 :=
  inferInstanceAs (Decidable (∀ t ∈ f.name :: f.description :: f.params, Bytes.isUtf8 t = true))

end Function

section Entries

private theorem text_ofText {t : Bytes} (h : Bytes.isUtf8 t = true) (held : Bytes) :
    Update.text held (guardedValue (.ofText t)) = some t := by
  change some (textOfBody (guarded (bodyOfText t))) = some t
  rw [Body.textOfBody_guarded (body_bodyOfText t), textOfBody_bodyOfText, scrub_of_isUtf8 h]

private theorem optional_ofText {t : Bytes} (h : Bytes.isUtf8 t = true) (held : Option Bytes) :
    Update.optional [] .text held (guardedValue (.ofText t)) = some (some t) := by
  change (Update.text (held.getD []) (guardedValue (.ofText t))).map some = _
  rw [text_ofText h]
  rfl

private theorem textOfBody_label (p : Part) : textOfBody (guarded p.label) = p.label := by
  cases p <;> decide +kernel

private theorem update_json {f : Function} (hf : f.IsUtf8) :
    EntryCells.update .fresh (guardedValue f.json) =
      some ⟨some f.name, some (.full f.params), some f.description⟩ := by
  obtain ⟨hname, hdescription, hparams⟩ : Bytes.isUtf8 f.name = true ∧
      Bytes.isUtf8 f.description = true ∧ ∀ p ∈ f.params, Bytes.isUtf8 p = true := by
    simpa [Function.IsUtf8] using hf
  have hitems := Cells.update_empty fun p hp => text_ofText (hparams p hp) []
  rw [List.map_id'] at hitems
  have hjson : guardedValue f.json = .object [
      (guarded (utf8 "name"), guardedValue (.ofText f.name)),
      (guarded (utf8 "params"), .array (f.params.map fun p => guardedValue (.ofText p))),
      (guarded (utf8 "description"), guardedValue (.ofText f.description))] := by
    simp [Function.json, field, guardedValue, guardedFields, guardedItems_eq_map]
  rw [hjson]
  refine (Update.record_member "name" EntryCells.name (fun e v => { e with name := v })
    (.optional [] .text) (textOfBody_label .name) rfl _ _ _).trans ?_
  rw [optional_ofText hname, Option.bind_some]
  refine (Update.record_member "params" EntryCells.params (fun e v => { e with params := v })
    (.optional .empty (Cells.update [] .text)) (textOfBody_label .params) rfl _ _ _).trans ?_
  change ((Cells.update [] .text .empty _).map some).bind _ = _
  rw [hitems, Option.map_some, Option.bind_some]
  refine (Update.record_member "description" EntryCells.description
    (fun e v => { e with description := v }) (.optional [] .text) (textOfBody_label .description)
    rfl _ _ _).trans ?_
  rw [optional_ofText hdescription]
  rfl

private theorem entries?_json {fs : List Function} (h : ∀ f ∈ fs, f.IsUtf8) :
    Json.entries? (guardedValue (Listing.json fs)) = some (some (fs.map Function.entry)) := by
  have hitems := Cells.update_empty fun f hf => update_json (h f hf)
  rw [Listing.json, guardedValue, guardedItems_eq_map, List.map_map]
  change (Cells.update _ _ .empty (.array (fs.map fun f => guardedValue f.json))).map _ = _
  rw [hitems, Option.map_some, Cells.toList_full, List.map_map]
  refine congrArg (fun es => some (some es)) (List.map_congr_left fun f _ => ?_)
  rw [Function.comp_apply, EntryCells.entry, Option.map_some, Cells.toList_full]
  rfl

end Entries

private theorem proper_json (fs : List Function) : Proper maxDepth (Listing.json fs) := by
  have hfunction (f : Function) : Proper (maxDepth - 1) f.json :=
    proper_object (properFields_field rfl (proper_ofText _)
      (properFields_field rfl (proper_array_map proper_ofText)
        (properFields_field rfl (proper_ofText _) trivial)))
  exact proper_array_map hfunction

private theorem parse_print {fs : List Function} (h : ∀ f ∈ fs, f.IsUtf8) {c : Catalog}
    (hc : Catalog.ofFunctions fs = .ok c) :
    Catalog.parse ((Listing.json fs).indented 0 ++ [0x0A]) .json = .ok c := by
  have hnewline : ∀ b ∈ [(0x0A : UInt8)], isSpace b = true := by
    intro b hb
    rw [List.mem_singleton.mp hb]
    rfl
  have hentries : Format.entries ((Listing.json fs).indented 0 ++ [0x0A]) .json =
      .ok (some (fs.map Function.entry)) := by
    rw [Format.entries, parse_indented (proper_json fs) 0 hnewline, Option.bind_some,
      entries?_json h]
  have hcatalog : Catalog.ofEntries (fs.map Function.entry) = .ok c := by
    rw [Catalog.ofEntries_map_entry]
    exact hc
  rw [Catalog.parse, hentries]
  simp only [hcatalog]

/-- What is listed of a catalogue as JSON, with any text to start the names, loads as a catalogue of
exactly the functions whose names start so, in their order and with all their parts; if there are
none, as the empty one. The command prints just that. -/
theorem listed_catalog_loads {fs : List Function} {c : Catalog}
    (hc : Catalog.ofFunctions fs = .ok c) (hutf8 : ∀ f ∈ fs, f.IsUtf8) {r : Renderer}
    (hr : r.isJson = true) (front : Bytes) :
    ∃ listed, Catalog.parse (Listing.printed r c front).out .json = .ok listed ∧
      listed.functions = fs.filter (fun f => front.isPrefixOf f.name) ∧
      ((∀ f ∈ fs, ¬ front <+: f.name) → listed = .empty) ∧
      ∀ (s : Program.Setup) (flags : Command.Parsed),
        Catalog.load s.files (flags.args.head?.getD s.settings.catalogPath) = .ok c →
        (flags.text? "prefix").getD [] = front →
        Program.list s r flags = (⟨(Listing.printed r c front).out, []⟩, .ok .done) := by
  obtain ⟨hfunctions, hindexed⟩ := Catalog.ofFunctions_ok hc
  have hselect : Listing.select c front = fs.filter fun f => front.isPrefixOf f.name := by
    rw [Listing.select, hfunctions]
  have hprinted : Listing.printed r c front =
      .line ((Listing.json (Listing.select c front)).indented 0) := if_pos hr
  have hsublist : (Listing.select c front).Sublist c.functions := List.filter_sublist
  obtain ⟨listed, hlisted⟩ := Catalog.ofFunctions_of_distinct
    (fun f hf => hindexed.identifier f (hsublist.subset hf))
    (hindexed.distinct.sublist (hsublist.map Function.name))
  have hall : ∀ f ∈ Listing.select c front, f.IsUtf8 := fun f hf =>
    hutf8 f (hfunctions ▸ hsublist.subset hf)
  refine ⟨listed, ?_, ?_, ?_, ?_⟩
  · rw [hprinted]
    exact parse_print hall hlisted
  · rw [(Catalog.ofFunctions_ok hlisted).1, hselect]
  · intro hnone
    have hnil : Listing.select c front = [] := by
      rw [hselect, List.filter_eq_nil_iff]
      intro f hf hpre
      exact hnone f hf (List.isPrefixOf_iff_prefix.mp hpre)
    rw [hnil] at hlisted
    cases hlisted
    rfl
  · intro s flags hload hfront
    rw [Program.list, hload, hfront]
    change Program.finished (Listing.printed r c front) = _
    rw [hprinted]
    rfl

/-- Two of three functions, one of them without parameters, the other with texts full of characters
that are escaped. -/
theorem listed_catalog_loads_escaped :
    let fs : List Function := [
      ⟨utf8 "beep", [utf8 "hz <Hz>", utf8 "\"né\"\\"], utf8 "a & b\n\tc\u2028"⟩,
      ⟨utf8 "alert", [utf8 "text"], utf8 "Shows a text."⟩,
      ⟨utf8 "bell", [], []⟩]
    let c : Catalog := ⟨fs, [(utf8 "bell", 2), (utf8 "alert", 1), (utf8 "beep", 0)]⟩
    Catalog.ofFunctions fs = .ok c ∧
      ∃ listed, Catalog.parse (Listing.printed (.piped .json) c (utf8 "be")).out .json =
        .ok listed ∧ listed.functions = fs.eraseIdx 1 := by
  intro fs c
  have hc : Catalog.ofFunctions fs = .ok c := by decide +kernel
  have hutf8 : ∀ f ∈ fs, f.IsUtf8 := by decide +kernel
  obtain ⟨listed, hparse, hfunctions, -⟩ :=
    listed_catalog_loads hc hutf8 (r := .piped .json) rfl (utf8 "be")
  exact ⟨hc, listed, hparse, hfunctions.trans (by decide +kernel)⟩

end CallAssist
