import CallAssist.Document.Uri
import CallAssist.Proofs.Text.Cuts

/-! Paths put into addresses and read back. An address holds its path as it is, while reading it
resolves escapes, so a path comes back unless it can be taken for an escaped one. -/

namespace CallAssist

namespace Uri

/-- A text in which some bytes are escaped, and the text it stands for. -/
inductive Spells : Bytes → Bytes → Prop where
  | nil : Spells [] []
  | plain {b : UInt8} {t u : Bytes} (hb : b ≠ 0x25) (h : Spells t u) : Spells (b :: t) (b :: u)
  | escape {a b : UInt8} {x y : Nat} {t u : Bytes} (ha : hexDigit? a = some x)
      (hb : hexDigit? b = some y) (h : Spells t u) :
    Spells (0x25 :: a :: b :: t) ((x * 16 + y).toUInt8 :: u)

/-- A path that reads as another text when it stands in an address. -/
def LooksEscaped (path : Bytes) : Prop :=
  0x25 ∈ path ∧ ∃ t, Spells path t ∧ Bytes.isUtf8 t = true

private theorem unescape?_plain {b : UInt8} (hb : b ≠ 0x25) (t : Bytes) :
    unescape? (b :: t) = (unescape? t).map (b :: ·) := by
  rw [unescape?]
  · rw [if_neg (by simpa using hb)]
  · rintro a c rest rfl
    exact absurd rfl hb

theorem spells_of_unescape? {t u : Bytes} (h : unescape? t = some u) : Spells t u := by
  fun_induction unescape? t generalizing u with
  | case1 =>
    obtain rfl := Option.some.inj h
    exact .nil
  | case2 a b t x y hb ha ih =>
    obtain ⟨v, hv, rfl⟩ := Option.map_eq_some_iff.mp h
    exact .escape ha hb (ih hv)
  | case3 => cases h
  | case4 => cases h
  | case5 b t _ hb ih =>
    obtain ⟨v, hv, rfl⟩ := Option.map_eq_some_iff.mp h
    exact .plain (by simpa using hb) (ih hv)

theorem Spells.unescape? {t u : Bytes} (h : Spells t u) : unescape? t = some u := by
  induction h with
  | nil => rfl
  | plain hb _ ih => rw [unescape?_plain hb, ih, Option.map_some]
  | escape ha hb _ ih => simp only [Uri.unescape?, ha, hb, ih, Option.map_some]

theorem Spells.length_le {t u : Bytes} (h : Spells t u) : u.length ≤ t.length := by
  induction h with
  | nil => exact Nat.le_refl 0
  | plain _ _ ih => exact Nat.succ_le_succ ih
  | escape _ _ _ ih => exact Nat.succ_le_succ (ih.trans (Nat.le_add_right _ 2))

/-- Only a text without a percent sign stands for itself, since an escape is longer than the byte
it gives. -/
theorem Spells.eq_iff {t u : Bytes} (h : Spells t u) : u = t ↔ 0x25 ∉ t := by
  induction h with
  | nil => simp
  | plain hb _ ih => simp [ih, hb.symm]
  | escape _ _ h _ =>
    have hlt := h.length_le
    constructor
    · intro heq
      have hlen := congrArg List.length heq
      simp only [List.length_cons] at hlen
      omega
    · intro hmem
      exact absurd List.mem_cons_self hmem

/-- An address whose path is well-formed with its escapes resolved is read so. -/
theorem toPath_of_spells {path t : Bytes} (h : Spells path t) (ht : Bytes.isUtf8 t = true) :
    toPath (scheme ++ path) = t := by
  simp only [toPath, Bytes.dropFront?_append, h.unescape?, ht, if_true]

/-- Any other address is read as it stands. -/
theorem toPath_of_not_spells {path : Bytes}
    (h : ¬ ∃ t, Spells path t ∧ Bytes.isUtf8 t = true) : toPath (scheme ++ path) = path := by
  simp only [toPath, Bytes.dropFront?_append]
  cases hu : unescape? path with
  | none => rfl
  | some t =>
    have ht : ¬ Bytes.isUtf8 t = true := fun ht => h ⟨t, spells_of_unescape? hu, ht⟩
    simp only [ht, if_false, Bool.false_eq_true]

theorem length_toPath_le (path : Bytes) : (toPath (scheme ++ path)).length ≤ path.length := by
  by_cases h : ∃ t, Spells path t ∧ Bytes.isUtf8 t = true
  · obtain ⟨t, hs, ht⟩ := h
    rw [toPath_of_spells hs ht]
    exact hs.length_le
  · rw [toPath_of_not_spells h]

theorem toPath_address_eq_iff {path : Bytes} :
    toPath (scheme ++ path) = path ↔ ¬ LooksEscaped path := by
  constructor
  · rintro h ⟨hmem, t, hs, ht⟩
    rw [toPath_of_spells hs ht] at h
    exact hs.eq_iff.mp h hmem
  · intro h
    by_cases hs : ∃ t, Spells path t ∧ Bytes.isUtf8 t = true
    · obtain ⟨t, hs, ht⟩ := hs
      have hnot : 0x25 ∉ path := fun hmem => h ⟨hmem, t, hs, ht⟩
      rw [toPath_of_spells hs ht]
      exact hs.eq_iff.mpr hnot
    · exact toPath_of_not_spells hs

theorem ofPath_of_scheme {path : Bytes} (h : scheme <+: path) : ofPath path = path := by
  rw [ofPath, if_pos (List.isPrefixOf_iff_prefix.mpr h)]

theorem ofPath_of_not_scheme {path : Bytes} (h : ¬ scheme <+: path) :
    ofPath path = scheme ++ path := by
  rw [ofPath, if_neg (mt List.isPrefixOf_iff_prefix.mp h)]

/-- A path comes back from its address exactly if it is no address itself and does not look
escaped. A path that does look so comes back as what it stands for. -/
theorem toPath_ofPath_eq_iff (path : Bytes) :
    (toPath (ofPath path) = path ↔ ¬ scheme <+: path ∧ ¬ LooksEscaped path) ∧
      (¬ scheme <+: path → ∀ t, Spells path t → Bytes.isUtf8 t = true →
        toPath (ofPath path) = t) := by
  by_cases hscheme : scheme <+: path
  · rw [ofPath_of_scheme hscheme]
    obtain ⟨rest, rfl⟩ := hscheme
    have hshort : toPath (scheme ++ rest) ≠ scheme ++ rest := by
      intro h
      have hle := length_toPath_le rest
      have hlen : scheme.length = 7 := rfl
      rw [h, List.length_append, hlen] at hle
      omega
    simp [hshort]
  · rw [ofPath_of_not_scheme hscheme, toPath_address_eq_iff]
    refine ⟨by simp [hscheme], ?_⟩
    intro _ t hs ht
    exact toPath_of_spells hs ht

/-- A well-formed path with an escaped blank in it comes back with the blank. -/
theorem toPath_ofPath_blank :
    let path := utf8 "/my%20game"
    Bytes.isUtf8 path = true ∧ ¬ scheme <+: path ∧
      toPath (ofPath path) = utf8 "/my game" ∧ toPath (ofPath path) ≠ path := by
  decide +kernel

end Uri

end CallAssist
