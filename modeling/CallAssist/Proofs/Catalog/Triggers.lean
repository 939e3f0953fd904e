import CallAssist.Proofs.Catalog.Index
import Mathlib.Data.List.Basic
import Mathlib.Data.List.Induction

/-! The characters that bring up suggestions: the first ones of the function names, each listed
once, in the order in which the names bring them up. -/

namespace CallAssist

/-- The members of a list, each once, in the order of their first occurrences. -/
structure FirstOccurrences (xs ts : List Bytes) : Prop where
  mem : ∀ t, t ∈ ts ↔ t ∈ xs
  ordered : ts.Pairwise fun a b => xs.idxOf a < xs.idxOf b

theorem FirstOccurrences.nodup {xs ts : List Bytes} (h : FirstOccurrences xs ts) : ts.Nodup := by
  apply h.ordered.imp
  rintro a b hlt rfl
  exact Nat.lt_irrefl _ hlt

/-- One more member is listed if it is a new one. -/
theorem FirstOccurrences.concat {xs ts : List Bytes} (h : FirstOccurrences xs ts) (x : Bytes) :
    FirstOccurrences (xs ++ [x]) (if ts.contains x then ts else ts ++ [x]) := by
  have hkept : ts.Pairwise fun a b => (xs ++ [x]).idxOf a < (xs ++ [x]).idxOf b := by
    apply h.ordered.imp_of_mem
    intro a b ha hb hlt
    rw [List.idxOf_append_of_mem ((h.mem a).mp ha), List.idxOf_append_of_mem ((h.mem b).mp hb)]
    exact hlt
  split_ifs with hx
  · rw [List.contains_iff_mem, h.mem] at hx
    refine ⟨fun t => ?_, hkept⟩
    rw [List.mem_append, List.mem_singleton, h.mem]
    constructor
    · exact .inl
    · rintro (ht | rfl)
      · exact ht
      · exact hx
  · rw [List.contains_iff_mem, h.mem] at hx
    refine ⟨fun t => by rw [List.mem_append, List.mem_append, h.mem], ?_⟩
    rw [List.pairwise_append]
    refine ⟨hkept, List.pairwise_singleton _ _, ?_⟩
    intro a ha b hb
    obtain rfl := List.mem_singleton.mp hb
    have ha := (h.mem a).mp ha
    rw [List.idxOf_append_of_mem ha, List.idxOf_append_of_notMem hx]
    have := List.idxOf_lt_length_of_mem ha
    omega

namespace Catalog

def initials (c : Catalog) : List Bytes := c.functions.map fun f => f.name.take 1

theorem triggers_firstOccurrences (c : Catalog) : FirstOccurrences c.initials c.triggers := by
  unfold initials triggers
  induction c.functions using List.reverseRecOn with
  | nil => exact ⟨fun t => Iff.rfl, List.Pairwise.nil⟩
  | append_singleton fs f ih =>
    rw [List.map_append, List.foldl_append]
    exact ih.concat (f.name.take 1)

/-- Every name starts with exactly one of the characters. -/
theorem Indexed.existsUnique_trigger {c : Catalog} (hc : c.Indexed) {f : Function}
    (hf : f ∈ c.functions) : ∃! t, t ∈ c.triggers ∧ t <+: f.name := by
  have hmem := c.triggers_firstOccurrences.mem
  refine ⟨f.name.take 1, ⟨?_, List.take_prefix 1 f.name⟩, ?_⟩
  · rw [hmem]
    exact List.mem_map_of_mem hf
  · rintro t ⟨ht, hprefix⟩
    rw [hmem] at ht
    obtain ⟨g, hg, rfl⟩ := List.mem_map.mp ht
    have hname : g.name ≠ [] := by
      intro hnil
      have := hc.identifier g hg
      rw [hnil] at this
      cases this
    have hone : (g.name.take 1).length = 1 := by
      have := List.length_pos_iff.mpr hname
      rw [List.length_take]
      omega
    have htake := List.prefix_iff_eq_take.mp hprefix
    rwa [hone] at htake

end Catalog

end CallAssist
