import CallAssist.Catalog.Load
import Mathlib.Data.List.Nodup

/-! The names of a catalogue: all are identifiers, no two are the same, and each is found at the
position of its function. -/

namespace CallAssist

namespace Catalog

/-- A catalogue that was built by adding functions one by one. -/
structure Indexed (c : Catalog) : Prop where
  identifier : ∀ f ∈ c.functions, Bytes.isIdentifier f.name = true
  distinct : (c.functions.map Function.name).Nodup
  position : ∀ name i, c.index? name = some i ↔ ∃ f, c.functions[i]? = some f ∧ f.name = name

theorem empty_indexed : empty.Indexed where
  identifier f hf := by simp [empty] at hf
  distinct := List.nodup_nil
  position name i := by simp [empty, index?]

private theorem fault?_eq_none {c : Catalog} {f : Function} (h : c.fault? f = none) :
    Bytes.isIdentifier f.name = true ∧ c.index? f.name = none := by
  unfold fault? at h
  split_ifs at h with _ hi
  exact ⟨by simpa using hi, Option.map_eq_none_iff.mp h⟩

theorem Indexed.name_not_mem {c : Catalog} (hc : c.Indexed) {name : Bytes}
    (h : c.index? name = none) : ∀ g ∈ c.functions, g.name ≠ name := by
  intro g hg hn
  obtain ⟨i, hi⟩ := List.getElem?_of_mem hg
  rw [(hc.position name i).mpr ⟨g, hi, hn⟩] at h
  cases h

private theorem index?_push (c : Catalog) (f : Function) (name : Bytes) :
    (c.push f).index? name = if name = f.name then some c.size else c.index? name := by
  simp only [index?, push, List.lookup_cons]
  by_cases h : name = f.name
  · simp [h]
  · rw [if_neg h, beq_false_of_ne h]

private theorem get_push {c : Catalog} {f g : Function} {i : Nat} :
    (c.push f).functions[i]? = some g ↔ c.functions[i]? = some g ∨ i = c.size ∧ f = g := by
  rw [push, List.getElem?_append, size]
  split_ifs with hi
  · exact ⟨.inl, fun h => h.resolve_right fun h => by omega⟩
  · rw [List.getElem?_eq_none (by omega : c.functions.length ≤ i), List.getElem?_singleton]
    split_ifs with hz
    · simp [show i = c.functions.length by omega]
    · simp [show i ≠ c.functions.length by omega]

/-- Adding a function that is not at fault keeps the index. -/
theorem Indexed.push {c : Catalog} (hc : c.Indexed) {f : Function} (h : c.fault? f = none) :
    (c.push f).Indexed := by
  obtain ⟨hid, hnew⟩ := fault?_eq_none h
  have fresh := hc.name_not_mem hnew
  refine ⟨?_, ?_, ?_⟩
  · intro g hg
    rcases List.mem_append.mp hg with hg | hg
    · exact hc.identifier g hg
    · exact List.mem_singleton.mp hg ▸ hid
  · rw [Catalog.push, List.map_append, List.nodup_append]
    refine ⟨hc.distinct, List.nodup_singleton _, ?_⟩
    intro a ha b hb
    obtain ⟨g, hg, rfl⟩ := List.mem_map.mp ha
    rw [List.map_singleton, List.mem_singleton] at hb
    exact hb ▸ fresh g hg
  · intro name i
    rw [index?_push]
    by_cases hn : name = f.name
    · subst hn
      rw [if_pos rfl, Option.some.injEq]
      constructor
      · rintro rfl
        exact ⟨f, get_push.mpr (.inr ⟨rfl, rfl⟩), rfl⟩
      · rintro ⟨g, hg, hname⟩
        rcases get_push.mp hg with hg | ⟨hi, _⟩
        · exact absurd hname (fresh g (List.mem_of_getElem? hg))
        · exact hi.symm
    · rw [if_neg hn, hc.position]
      constructor
      · rintro ⟨g, hg, hname⟩
        exact ⟨g, get_push.mpr (.inl hg), hname⟩
      · rintro ⟨g, hg, hname⟩
        rcases get_push.mp hg with hg | ⟨_, rfl⟩
        · exact ⟨g, hg, hname⟩
        · exact absurd hname.symm hn

private theorem extend_ok {c c' : Catalog} {fs : List Function} (hc : c.Indexed)
    (h : c.extend fs = .ok c') : c'.functions = c.functions ++ fs ∧ c'.Indexed := by
  induction fs generalizing c with
  | nil =>
    cases h
    exact ⟨(List.append_nil _).symm, hc⟩
  | cons f fs ih =>
    rw [extend] at h
    cases hf : c.fault? f with
    | some fault => rw [hf] at h; cases h
    | none =>
      rw [hf] at h
      obtain ⟨he, hi⟩ := ih (hc.push hf) h
      exact ⟨by rw [he, Catalog.push, List.append_assoc, List.singleton_append], hi⟩

/-- An accepted list of functions is the catalogue, in its order and with a faithful index. -/
theorem ofFunctions_ok {fs : List Function} {c : Catalog} (h : ofFunctions fs = .ok c) :
    c.functions = fs ∧ c.Indexed := by
  obtain ⟨he, hi⟩ := extend_ok empty_indexed h
  exact ⟨by rw [he, empty, List.nil_append], hi⟩

private theorem fault?_of_distinct {c : Catalog} (hc : c.Indexed) {f : Function}
    (hid : Bytes.isIdentifier f.name = true) (hnew : f.name ∉ c.functions.map Function.name) :
    c.fault? f = none := by
  have hempty : f.name.isEmpty = false := by
    rw [Bytes.isIdentifier, Bool.and_eq_true] at hid
    simpa using hid.1
  have hindex : c.index? f.name = none := by
    refine Option.eq_none_iff_forall_ne_some.mpr fun i hi => hnew ?_
    obtain ⟨g, hg, hname⟩ := (hc.position f.name i).mp hi
    exact hname ▸ List.mem_map_of_mem (List.mem_of_getElem? hg)
  simp [fault?, hempty, hid, hindex]

private theorem extend_of_distinct {c : Catalog} {fs : List Function} (hc : c.Indexed)
    (hid : ∀ f ∈ fs, Bytes.isIdentifier f.name = true)
    (hdistinct : ((c.functions ++ fs).map Function.name).Nodup) : ∃ c', c.extend fs = .ok c' := by
  induction fs generalizing c with
  | nil => exact ⟨c, rfl⟩
  | cons f fs ih =>
    obtain ⟨hf, hfs⟩ := List.forall_mem_cons.mp hid
    have hnew : f.name ∉ c.functions.map Function.name := by
      rw [List.map_append, List.nodup_append] at hdistinct
      exact fun hmem => hdistinct.2.2 _ hmem _ List.mem_cons_self rfl
    have hfault := fault?_of_distinct hc hf hnew
    rw [extend, hfault]
    exact ih (hc.push hfault) hfs (by simpa [Catalog.push] using hdistinct)

/-- Functions whose names are identifiers, no two the same, make a catalogue. -/
theorem ofFunctions_of_distinct {fs : List Function}
    (hid : ∀ f ∈ fs, Bytes.isIdentifier f.name = true)
    (hdistinct : (fs.map Function.name).Nodup) :
    ∃ c, ofFunctions fs = .ok c := extend_of_distinct empty_indexed hid hdistinct

/-- Two positions of an indexed catalogue with one name are the same. -/
theorem Indexed.position_unique {c : Catalog} (hc : c.Indexed) {i j : Nat} {f g : Function}
    (hf : c.functions[i]? = some f) (hg : c.functions[j]? = some g) (h : f.name = g.name) : i = j := by
  have hi := (hc.position f.name i).mpr ⟨f, hf, rfl⟩
  have hj := (hc.position f.name j).mpr ⟨g, hg, h.symm⟩
  exact Option.some.inj (hi.symm.trans hj)

theorem exists_of_bind_ok {ε α β : Type} {x : Except ε α} {f : α → Except ε β} {b : β}
    (h : x >>= f = .ok b) : ∃ a, x = .ok a ∧ f a = .ok b := by
  cases x with
  | error e => cases h
  | ok a => exact ⟨a, rfl, h⟩

private theorem parse_indexed {data : Bytes} {format : Format} {c : Catalog}
    (h : parse data format = .ok c) : c.Indexed := by
  unfold parse at h
  split at h
  · cases h
  · cases h
  · split at h
    · cases h
    · next es _ c' hc =>
      cases h
      unfold ofEntries at hc
      obtain ⟨fns, _, hc⟩ := exists_of_bind_ok hc
      exact (ofFunctions_ok hc).2

/-- A catalogue that was loaded has a faithful index. -/
theorem load_indexed {fs : Files} {path : Bytes} {c : Catalog} (h : load fs path = .ok c) :
    c.Indexed := by
  unfold load at h
  obtain ⟨format, _, h⟩ := exists_of_bind_ok h
  split at h
  · cases h
  · split at h
    · cases h
    · next hp =>
      cases h
      exact parse_indexed hp

end Catalog

end CallAssist
