import CallAssist.Text.Bytes
import Mathlib.Data.List.TakeWhile
import Mathlib.Tactic.Common

/-! Texts cut at a separator or behind a given front, and joined. -/

namespace CallAssist

namespace Bytes

theorem dropFront?_append (front t : Bytes) : dropFront? front (front ++ t) = some t := by
  simp [dropFront?]

theorem dropFront?_eq_some {front t rest : Bytes} :
    dropFront? front t = some rest ↔ t = front ++ rest := by
  constructor
  · intro h
    rw [dropFront?] at h
    split_ifs at h with hp
    obtain ⟨u, rfl⟩ := List.isPrefixOf_iff_prefix.mp hp
    rw [List.drop_left] at h
    rw [Option.some.inj h]
  · rintro rfl
    exact dropFront?_append front rest

theorem dropFront?_eq_none {front t : Bytes} (h : ¬ front <+: t) : dropFront? front t = none := by
  simpa [dropFront?] using h

theorem dropFront?_of_ne {a b : UInt8} (h : a ≠ b) (front t : Bytes) :
    dropFront? (a :: front) (b :: t) = none := by
  simp [dropFront?, h]

theorem cut_append {sep : UInt8} {before after : Bytes} (h : sep ∉ before) :
    cut sep (before ++ sep :: after) = some (before, after) := by
  have hp : ∀ b ∈ before, (b != sep) = true := by
    intro b hb
    rw [bne_iff_ne]
    rintro rfl
    exact h hb
  rw [cut, List.dropWhile_append_of_pos hp, List.takeWhile_append_of_pos hp]
  simp

theorem cut_eq_none {sep : UInt8} {t : Bytes} (h : sep ∉ t) : cut sep t = none := by
  have hd : t.dropWhile (· != sep) = [] := by
    rw [List.dropWhile_eq_nil_iff]
    intro b hb
    rw [bne_iff_ne]
    rintro rfl
    exact h hb
  rw [cut, hd]

/-- A text is cut at the first separator or not at all. -/
theorem cut_eq_some {sep : UInt8} {t before after : Bytes} (h : cut sep t = some (before, after)) :
    t = before ++ sep :: after ∧ sep ∉ before := by
  by_cases hm : sep ∈ t
  · obtain ⟨as, bs, rfl, ha⟩ := List.eq_append_cons_of_mem hm
    rw [cut_append ha] at h
    obtain ⟨rfl, rfl⟩ := Prod.mk.inj (Option.some.inj h)
    exact ⟨rfl, ha⟩
  · rw [cut_eq_none hm] at h
    cases h

private theorem cutLast_eq (sep : UInt8) (t : Bytes) :
    cutLast sep t = (cut sep t.reverse).map fun (l, r) => (r.reverse, l.reverse) := by
  unfold cutLast cut
  cases t.reverse.dropWhile (· != sep) with
  | nil => rfl
  | cons b before => rfl

theorem cutLast_append {sep : UInt8} {before after : Bytes} (h : sep ∉ after) :
    cutLast sep (before ++ sep :: after) = some (before, after) := by
  have hr : (before ++ sep :: after).reverse = after.reverse ++ sep :: before.reverse := by simp
  rw [cutLast_eq, hr, cut_append (by simpa using h)]
  simp

theorem cutLast_eq_none {sep : UInt8} {t : Bytes} (h : sep ∉ t) : cutLast sep t = none := by
  rw [cutLast_eq, cut_eq_none (by simpa using h)]
  rfl

theorem exists_last {sep : UInt8} {t : Bytes} (h : sep ∈ t) :
    ∃ before after, t = before ++ sep :: after ∧ sep ∉ after := by
  obtain ⟨as, bs, hs, ha⟩ := List.eq_append_cons_of_mem (List.mem_reverse.mpr h)
  refine ⟨bs.reverse, as.reverse, ?_, fun hm => ha (List.mem_reverse.mp hm)⟩
  rw [← List.reverse_reverse t, hs]
  simp

theorem intercalate_cons {α : Type} (sep x : List α) (xs : List (List α)) :
    sep.intercalate (x :: xs) = x ++ xs.flatMap (sep ++ ·) := by
  induction xs generalizing x with
  | nil => simp
  | cons y ys ih =>
    rw [List.intercalate_cons_cons, ih, List.flatMap_cons, List.append_assoc, List.append_assoc]

theorem join_eq_intercalate (sep : Bytes) (ps : List Bytes) : join sep ps = sep.intercalate ps := by
  fun_induction join sep ps with
  | case1 => rfl
  | case2 p => rw [List.intercalate_singleton]
  | case3 p ps hps ih =>
    rw [ih, List.intercalate_cons_of_ne_nil hps]

theorem map_join {α : Type} (f : UInt8 → α) (sep : Bytes) (ps : List Bytes) :
    (join sep ps).map f = (sep.map f).intercalate (ps.map (List.map f)) := by
  fun_induction join sep ps with
  | case1 => rfl
  | case2 t => rw [List.map_singleton, List.intercalate_singleton]
  | case3 t ps hps ih =>
    have hne : ps.map (List.map f) ≠ [] := by
      rw [ne_eq, List.map_eq_nil_iff]
      exact hps
    rw [List.map_append, List.map_append, ih, List.map_cons, List.intercalate_cons_of_ne_nil hne]

theorem forall_mem_join {p : UInt8 → Prop} {sep : Bytes} (hsep : ∀ b ∈ sep, p b)
    {ps : List Bytes} (hps : ∀ t ∈ ps, ∀ b ∈ t, p b) : ∀ b ∈ join sep ps, p b := by
  fun_induction join sep ps with
  | case1 => simp
  | case2 t => exact hps t List.mem_cons_self
  | case3 t ps _ ih =>
    obtain ⟨ht, hps⟩ := List.forall_mem_cons.mp hps
    simp only [List.forall_mem_append]
    exact ⟨⟨ht, hsep⟩, ih hps⟩

end Bytes

end CallAssist
