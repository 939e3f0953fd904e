import CallAssist.Proofs.Catalog.Drafts
import CallAssist.Proofs.Catalog.Entries

/-! One source in both formats. They agree unless there is a null among the entries or among the
parameters of one; then they agree only where the rest of the source is refused as well. -/

namespace CallAssist

namespace Entry

private theorem params_of_function {e : Entry} {f : Function} (h : e.function = .ok f) :
    e.params = some f.params := by
  rw [function_eq_ok.mp h]
  rfl

/-- Functions are found for all entries or for none. -/
theorem functions_ok {i : Nat} {es : List Entry} {fs : List Function}
    (h : functions i es = .ok fs) : es.map function = fs.map .ok := by
  rw [functions_eq_ok.mp h, List.map_map]
  exact List.map_congr_left fun f _ => function_eq_ok.mpr rfl

private theorem functions_names {α : Type} {a b : α → Entry} {xs : List α} {i : Nat}
    {fs : List Function} (h : functions i (xs.map a) = .ok fs)
    (hab : ∀ x ∈ xs, ∀ f, (a x).function = .ok f → ∃ g, (b x).function = .ok g ∧ g.name = f.name) :
    ∃ gs, functions i (xs.map b) = .ok gs ∧ gs.map Function.name = fs.map Function.name := by
  induction xs generalizing i fs with
  | nil =>
    cases h
    exact ⟨[], rfl, rfl⟩
  | cons x xs ih =>
    obtain ⟨f, fs, hf, hfs, rfl⟩ := functions_cons_ok.mp h
    obtain ⟨hx, hxs⟩ := List.forall_mem_cons.mp hab
    obtain ⟨g, hg, hname⟩ := hx f hf
    obtain ⟨gs, hgs, hnames⟩ := ih hfs hxs
    refine ⟨g :: gs, functions_cons_ok.mpr ⟨g, gs, hg, hgs, rfl⟩, ?_⟩
    rw [List.map_cons, List.map_cons, hname, hnames]

end Entry

namespace Catalog

private theorem extend_names {fs gs : List Function} :
    ∀ {c d c' : Catalog}, gs.map Function.name = fs.map Function.name →
      d.positions = c.positions → d.size = c.size → c.extend fs = .ok c' →
      ∃ d', d.extend gs = .ok d' := by
  induction fs generalizing gs with
  | nil =>
    intro c d c' hnames _ _ _
    obtain rfl := List.map_eq_nil_iff.mp hnames
    exact ⟨d, rfl⟩
  | cons f fs ih =>
    intro c d c' hnames hpositions hsize h
    obtain ⟨g, gs, rfl, hname, hnames⟩ := List.map_eq_cons_iff.mp hnames
    have hfault : d.fault? g = c.fault? f := by
      rw [fault?, fault?, hname, index?, index?, hpositions]
    rw [extend] at h ⊢
    rw [hfault]
    cases hf : c.fault? f with
    | some fault =>
      rw [hf] at h
      cases h
    | none =>
      rw [hf] at h
      refine ih hnames ?_ ?_ h
      · rw [push, push, hname, hsize, hpositions]
      · simpa [push, size] using hsize

private theorem functions_of_ofEntries {es : List Entry} {c : Catalog} (h : ofEntries es = .ok c) :
    es.map Entry.function = c.functions.map .ok := by
  obtain ⟨fs, hfs, hc⟩ := exists_of_bind_ok h
  rw [Entry.functions_ok hfs, (ofFunctions_ok hc).1]

private theorem exists_function {es : List Entry} {c : Catalog} (h : ofEntries es = .ok c)
    {e : Entry} (he : e ∈ es) : ∃ f, e.function = .ok f := by
  have hfunction : e.function ∈ es.map Entry.function := List.mem_map_of_mem he
  rw [functions_of_ofEntries h] at hfunction
  obtain ⟨f, _, hf⟩ := List.mem_map.mp hfunction
  exact ⟨f, hf.symm⟩

private theorem ofEntries_names {α : Type} {a b : α → Entry} {xs : List α} {c : Catalog}
    (h : ofEntries (xs.map a) = .ok c)
    (hab : ∀ x ∈ xs, ∀ f, (a x).function = .ok f → ∃ g, (b x).function = .ok g ∧ g.name = f.name) :
    ∃ c', ofEntries (xs.map b) = .ok c' := by
  obtain ⟨fs, hfs, hc⟩ := exists_of_bind_ok h
  obtain ⟨gs, hgs, hnames⟩ := Entry.functions_names hfs hab
  obtain ⟨c', hc'⟩ := extend_names hnames rfl rfl hc
  refine ⟨c', ?_⟩
  rw [ofEntries, hgs]
  exact hc'

/-- Two readings agree when both fail or both have the same functions in the same order. -/
def Agree : Except SourceError Catalog → Except SourceError Catalog → Prop
  | .error _, .error _ => True
  | .ok c, .ok c' => c.functions = c'.functions
  | _, _ => False

end Catalog

section Nulls

private theorem DraftParts.function_name {p : DraftParts}
    {list list' : List (Option PlainText) → List Bytes} {f : Function}
    (h : (p.entry list).function = .ok f) :
    ∃ g, (p.entry list').function = .ok g ∧ g.name = f.name := by
  obtain ⟨_ | name, _ | params, _ | description⟩ := p
  case some.some.some =>
    cases h
    exact ⟨_, rfl, rfl⟩
  all_goals cases h

private theorem length_dropNulls_lt {ts : List (Option PlainText)} (h : none ∈ ts) :
    (dropNulls ts).length < (blankNulls ts).length := by
  rw [dropNulls, blankNulls, List.length_map, List.length_filterMap_lt_length_iff_exists]
  exact ⟨none, h, rfl⟩

private theorem exists_map_some {α : Type} {xs : List (Option α)} (h : none ∉ xs) :
    ∃ ys : List α, xs = ys.map some := by
  induction xs with
  | nil => exact ⟨[], rfl⟩
  | cons x xs ih =>
    obtain ⟨ys, rfl⟩ := ih fun hm => h (List.mem_cons_of_mem _ hm)
    cases x with
    | none => exact absurd List.mem_cons_self h
    | some y => exact ⟨y :: ys, rfl⟩

private theorem blankNulls_eq_dropNulls {ts : List (Option PlainText)} (h : none ∉ ts) :
    blankNulls ts = dropNulls ts := by
  obtain ⟨us, rfl⟩ := exists_map_some h
  rw [blankNulls, dropNulls, List.map_map, List.filterMap_map]
  exact (congrFun List.filterMap_eq_map us).symm

namespace Draft

/-- A null among the entries, or among the parameters of one. -/
def HasNullItem (d : Draft) : Prop :=
  none ∈ d ∨ ∃ e, some e ∈ d ∧ ∃ ts, e.parts.params = some ts ∧ none ∈ ts

private theorem exists_entries {d : Draft} {c : Catalog} (h : Catalog.ofEntries d.blanked = .ok c) :
    ∃ es : List DraftEntry, d = es.map some := by
  refine exists_map_some fun hnone => ?_
  obtain ⟨f, hf⟩ := Catalog.exists_function h (List.mem_map.mpr ⟨none, hnone, rfl⟩)
  cases hf

private theorem blanked_map (es : List DraftEntry) :
    Draft.blanked (es.map some) = es.map fun e => e.parts.entry blankNulls := by
  rw [blanked, List.map_map]
  rfl

private theorem dropped_map (es : List DraftEntry) :
    Draft.dropped (es.map some) = es.map fun e => e.parts.entry dropNulls := by
  rw [dropped, List.filterMap_map]
  exact congrFun List.filterMap_eq_map es

private theorem dropped_ok {d : Draft} {c : Catalog} (h : Catalog.ofEntries d.blanked = .ok c) :
    ∃ c', Catalog.ofEntries d.dropped = .ok c' := by
  obtain ⟨es, rfl⟩ := exists_entries h
  rw [blanked_map] at h
  rw [dropped_map]
  exact Catalog.ofEntries_names h fun e _ f hf => DraftParts.function_name hf

private theorem not_hasNullItem {d : Draft} {c c' : Catalog}
    (h : Catalog.ofEntries d.blanked = .ok c) (h' : Catalog.ofEntries d.dropped = .ok c')
    (hfunctions : c.functions = c'.functions) : ¬ d.HasNullItem := by
  obtain ⟨es, rfl⟩ := exists_entries h
  rw [blanked_map] at h
  rw [dropped_map] at h'
  have hsame := (Catalog.functions_of_ofEntries h).trans
    (hfunctions ▸ (Catalog.functions_of_ofEntries h').symm)
  rw [List.map_map, List.map_map] at hsame
  rintro (hnone | ⟨e, he, ts, hts, hnull⟩)
  · simp at hnone
  · have he : e ∈ es := by simpa using he
    have hfunction : (e.parts.entry blankNulls).function = (e.parts.entry dropNulls).function :=
      List.map_inj_left.mp hsame e he
    obtain ⟨f, hf⟩ := Catalog.exists_function h (List.mem_map_of_mem he)
    have hblank := Entry.params_of_function hf
    have hdrop := Entry.params_of_function (hfunction ▸ hf)
    have hlength := length_dropNulls_lt hnull
    have hlist : some (blankNulls ts) = some (dropNulls ts) := by
      simpa only [DraftParts.entry, hts, Option.map_some] using hblank.trans hdrop.symm
    rw [Option.some.inj hlist] at hlength
    exact Nat.lt_irrefl _ hlength

private theorem blanked_eq_dropped {d : Draft} (h : ¬ d.HasNullItem) : d.blanked = d.dropped := by
  obtain ⟨hnone, hparams⟩ := not_or.mp h
  obtain ⟨es, rfl⟩ := exists_map_some hnone
  rw [blanked_map, dropped_map]
  refine List.map_congr_left fun e he => ?_
  have hlist : e.parts.params.map blankNulls = e.parts.params.map dropNulls := by
    refine Option.map_congr fun ts hts => blankNulls_eq_dropNulls fun hnull => ?_
    exact hparams ⟨e, List.mem_map_of_mem he, ts, hts, hnull⟩
  rw [DraftParts.entry, DraftParts.entry, hlist]

end Draft

end Nulls

/-- The formats agree on a source exactly when it has no null among its entries or parameters, or
its entries are refused without the nulls as well. -/
theorem Catalog.formats_agree_iff (d : Draft) :
    Agree (parse d.text .json) (parse d.text .yaml) ↔
      ¬ d.HasNullItem ∨ ∃ e, ofEntries d.dropped = .error e := by
  rw [parse_eq d.json_entries, parse_eq d.yaml_entries]
  constructor
  · intro hagree
    cases hy : ofEntries d.dropped with
    | error e => exact .inr ⟨e, rfl⟩
    | ok c' =>
      rw [hy] at hagree
      cases hj : ofEntries d.blanked with
      | error e =>
        rw [hj] at hagree
        exact hagree.elim
      | ok c =>
        rw [hj] at hagree
        exact .inl (Draft.not_hasNullItem hj hy hagree)
  · rintro (hnull | ⟨e, hy⟩)
    · rw [Draft.blanked_eq_dropped hnull]
      cases ofEntries d.dropped with
      | error e => trivial
      | ok c => rfl
    · cases hj : ofEntries d.blanked with
      | error e' =>
        rw [hy]
        trivial
      | ok c =>
        obtain ⟨c', hc'⟩ := Draft.dropped_ok hj
        rw [hy] at hc'
        cases hc'

/-- A null in place of an entry: JSON misses its name, YAML passes it over. -/
theorem Catalog.formats_differ_on_null :
    Draft.text [none] = utf8 "[null]" ∧
      parse (Draft.text [none]) .json = .error (.entry ⟨0, .missing .name⟩) ∧
      parse (Draft.text [none]) .yaml = .ok .empty ∧
      ¬ Agree (parse (Draft.text [none]) .json) (parse (Draft.text [none]) .yaml) := by
  have hjson : parse (Draft.text [none]) .json = .error (.entry ⟨0, .missing .name⟩) := by
    decide +kernel
  have hyaml : parse (Draft.text [none]) .yaml = .ok .empty := by decide +kernel
  refine ⟨rfl, hjson, hyaml, ?_⟩
  rw [hjson, hyaml]
  exact id

end CallAssist
