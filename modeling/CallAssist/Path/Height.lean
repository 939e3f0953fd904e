import CallAssist.Path

/-!
How far a path is from a directory that is above itself. Going up shortens a path that has a slash,
the slash alone apart; a path without one becomes a dot, which is longer than the empty path.
-/

namespace CallAssist

namespace Path

/-- An upper bound of the steps up from a path to a directory that is above itself. -/
def height (p : Bytes) : Nat := if p = [] then 1 else if p = dot then 0 else p.length

theorem height_le (p : Bytes) : height p ≤ max p.length 1 := by
  rw [height]
  split
  · omega
  · split <;> omega

section Length

private theorem isAbsolute_cons (b : UInt8) (t : Bytes) : isAbsolute (b :: t) = (b == slash) := by
  by_cases h : b = slash
  · subst h
    rfl
  · rw [beq_false_of_ne h]
    unfold isAbsolute
    split
    · next heq => exact absurd (List.cons.inj heq).1 h
    · rfl

private def weight : List Bytes → Nat
  | [] => 0
  | p :: ps => p.length + 1 + weight ps

private theorem weight_append (ps qs : List Bytes) :
    weight (ps ++ qs) = weight ps + weight qs := by
  induction ps with
  | nil => exact (Nat.zero_add _).symm
  | cons p ps ih =>
    rw [List.cons_append, weight, weight, ih]
    omega

private theorem weight_reverse (ps : List Bytes) : weight ps.reverse = weight ps := by
  induction ps with
  | nil => rfl
  | cons p ps ih =>
    rw [List.reverse_cons, weight_append, ih, weight, weight, weight]
    omega

private theorem weight_split (sep : UInt8) (t : Bytes) :
    weight (Bytes.split sep t) = t.length + 1 := by
  induction t with
  | nil => rfl
  | cons b t ih =>
    rw [Bytes.split]
    split
    · rw [weight, ih, List.length_cons, List.length_nil]
      omega
    · cases hs : Bytes.split sep t with
      | nil =>
        rw [hs, weight] at ih
        omega
      | cons p ps =>
        rw [hs, weight] at ih
        simp only [weight, List.length_cons]
        omega

private theorem length_join (sep : UInt8) (ps : List Bytes) :
    (Bytes.join [sep] ps).length = weight ps - 1 := by
  induction ps with
  | nil => rfl
  | cons p ps ih =>
    cases ps with
    | nil => simp [Bytes.join, weight]
    | cons q qs =>
      simp only [weight] at ih
      simp only [Bytes.join, List.length_append, List.length_singleton, weight, ih]
      omega

private theorem weight_cleanStep (rooted : Bool) (kept : List Bytes) (element : Bytes) :
    weight (cleanStep rooted kept element) ≤ weight kept + (element.length + 1) := by
  unfold cleanStep
  split
  · omega
  · split
    · next h =>
      rw [beq_iff_eq.mp h]
      cases kept with
      | nil => cases rooted <;> decide
      | cons last rest =>
        simp only
        split <;> simp only [weight] <;> omega
    · simp only [weight]
      omega

private theorem weight_foldl_cleanStep (rooted : Bool) (kept elements : List Bytes) :
    weight (elements.foldl (cleanStep rooted) kept) ≤ weight kept + weight elements := by
  induction elements generalizing kept with
  | nil => exact Nat.le_refl _
  | cons e es ih =>
    have hstep := weight_cleanStep rooted kept e
    have hrest := ih (cleanStep rooted kept e)
    rw [List.foldl_cons, weight]
    omega

/-- A clean path is not longer than the path it comes from, unless that is empty. -/
theorem length_clean_le {p : Bytes} (h : p ≠ []) : (clean p).length ≤ p.length := by
  have hpos := List.length_pos_iff.mpr h
  simp only [clean]
  split
  · next hrooted =>
    obtain ⟨t, rfl⟩ : ∃ t, p = slash :: t := by
      cases p with
      | nil => exact absurd rfl h
      | cons b t =>
        rw [isAbsolute_cons, beq_iff_eq] at hrooted
        exact ⟨t, by rw [hrooted]⟩
    have hkept := weight_foldl_cleanStep true [] (Bytes.split slash t)
    rw [weight_split, weight] at hkept
    have hfirst : Bytes.split slash (slash :: t) = [] :: Bytes.split slash t := if_pos rfl
    have hrooted : isAbsolute (slash :: t) = true := rfl
    rw [hfirst, hrooted, List.foldl_cons, List.length_cons, length_join, weight_reverse,
      List.length_cons]
    change weight ((Bytes.split slash t).foldl (cleanStep true) []) - 1 + 1 ≤ _
    omega
  · split
    · exact hpos
    · have hkept := weight_foldl_cleanStep (isAbsolute p) [] (Bytes.split slash p)
      rw [weight_split, weight] at hkept
      rw [length_join, weight_reverse]
      omega

end Length

section Up

private theorem split_concat (sep : UInt8) (t : Bytes) :
    Bytes.split sep (t ++ [sep]) = Bytes.split sep t ++ [[]] := by
  induction t with
  | nil => simp [Bytes.split]
  | cons b t ih =>
    rw [List.cons_append, Bytes.split, Bytes.split, ih]
    split
    · rfl
    · cases hs : Bytes.split sep t with
      | nil =>
        have hweight := weight_split sep t
        rw [hs, weight] at hweight
        omega
      | cons p ps => rfl

/-- A slash at the end of a path means nothing. -/
theorem clean_concat {p : Bytes} (h : p ≠ []) : clean (p ++ [slash]) = clean p := by
  have hrooted : isAbsolute (p ++ [slash]) = isAbsolute p := by
    cases p with
    | nil => exact absurd rfl h
    | cons b t => rw [List.cons_append, isAbsolute_cons, isAbsolute_cons]
  have hlast (kept : List Bytes) : cleanStep (isAbsolute p) kept [] = kept := rfl
  simp only [clean, split_concat, hrooted, List.foldl_append, List.foldl_cons, List.foldl_nil,
    hlast]

private theorem eq_of_cutLast {p before after : Bytes}
    (h : Bytes.cutLast slash p = some (before, after)) : p = before ++ slash :: after := by
  have hparts := List.takeWhile_append_dropWhile (p := (· != slash)) (l := p.reverse)
  have hsep := List.head?_dropWhile_not (· != slash) p.reverse
  unfold Bytes.cutLast at h
  split at h
  · cases h
  · next b rest hrest =>
    obtain ⟨rfl, rfl⟩ := Prod.mk.inj (Option.some.inj h)
    rw [hrest] at hparts hsep
    obtain rfl : b = slash := by simpa using hsep
    calc
      p = p.reverse.reverse := p.reverse_reverse.symm
      _ = (p.reverse.takeWhile (· != slash) ++ slash :: rest).reverse := by rw [hparts]
      _ = rest.reverse ++ slash :: (p.reverse.takeWhile (· != slash)).reverse := by simp

/-- Going up lowers the height, wherever it leads to another directory. -/
theorem height_directory_lt {p : Bytes} (h : directory p ≠ p) :
    height (directory p) < height p := by
  cases hc : Bytes.cutLast slash p with
  | none =>
    have hdot : directory p = dot := by rw [directory, hc]
    rw [hdot] at h ⊢
    have hp : height p = if p = [] then 1 else p.length := by
      rw [height, if_neg (Ne.symm h)]
    rw [hp, show height dot = 0 from rfl]
    split
    · exact Nat.one_pos
    · next hne => exact List.length_pos_iff.mpr hne
  | some parts =>
    obtain ⟨before, after⟩ := parts
    obtain rfl := eq_of_cutLast hc
    have hup : directory (before ++ slash :: after) = clean (before ++ [slash]) := by
      rw [directory, hc]
    have hp : height (before ++ slash :: after) = before.length + (after.length + 1) := by
      have hdot : before ++ slash :: after ≠ dot := by
        intro he
        have hmem : slash ∈ dot := he ▸ List.mem_append_right before List.mem_cons_self
        exact absurd hmem (by decide)
      rw [height, if_neg (by simp), if_neg hdot, List.length_append, List.length_cons]
    rw [hup] at h ⊢
    by_cases hb : before = []
    · subst hb
      have hafter : after ≠ [] := by
        rintro rfl
        exact h rfl
      have hpos := List.length_pos_iff.mpr hafter
      rw [hp, show height (clean ([] ++ [slash])) = 1 from rfl]
      omega
    · have hpos := List.length_pos_iff.mpr hb
      have hle := height_le (clean before)
      have hclean := length_clean_le hb
      rw [hp, clean_concat hb]
      omega

end Up

end Path

end CallAssist
