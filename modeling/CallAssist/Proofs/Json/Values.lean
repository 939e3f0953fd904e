import CallAssist.Proofs.Json.Numerals
import CallAssist.Proofs.Json.Strings
import CallAssist.Proofs.Text.Cuts

/-! JSON values and their text. What is read is well formed, and guarding its strings keeps what it
stands for. -/

namespace CallAssist

namespace Json

mutual

/-- A value whose strings and numbers are well spelled and whose containers are nested at most so
deep. -/
def Proper : Nat → Json → Prop
  | _, .null => True
  | _, .bool _ => True
  | _, .number ds => IsNumber ds
  | _, .string body => Body body
  | depth, .array xs => 0 < depth ∧ ProperItems (depth - 1) xs
  | depth, .object fs => 0 < depth ∧ ProperFields (depth - 1) fs

def ProperItems : Nat → List Json → Prop
  | _, [] => True
  | depth, x :: xs => Proper depth x ∧ ProperItems depth xs

def ProperFields : Nat → List (Bytes × Json) → Prop
  | _, [] => True
  | depth, (k, v) :: fs => Body k ∧ Proper depth v ∧ ProperFields depth fs

end

mutual

def guardedValue : Json → Json
  | .string body => .string (guarded body)
  | .array xs => .array (guardedItems xs)
  | .object fs => .object (guardedFields fs)
  | v => v

def guardedItems : List Json → List Json
  | [] => []
  | x :: xs => guardedValue x :: guardedItems xs

def guardedFields : List (Bytes × Json) → List (Bytes × Json)
  | [] => []
  | (k, v) :: fs => (guarded k, guardedValue v) :: guardedFields fs

end

theorem guardedItems_eq_map (xs : List Json) : guardedItems xs = xs.map guardedValue := by
  induction xs with
  | nil => rfl
  | cons x xs ih => rw [guardedItems, ih, List.map_cons]

section Building

variable {d : Nat}

theorem proper_ofText (t : Bytes) : Proper d (.ofText t) := body_bodyOfText t

theorem proper_ofNat (n : Nat) : Proper d (.ofNat n) := isNumber_ofNat n

theorem proper_object {fs : List (Bytes × Json)} (h : ProperFields d fs) :
    Proper (d + 1) (.object fs) := ⟨Nat.succ_pos d, h⟩

theorem proper_array_map {α : Type} {f : α → Json} {xs : List α}
    (h : ∀ x, Proper d (f x)) : Proper (d + 1) (.array (xs.map f)) := by
  refine ⟨Nat.succ_pos d, ?_⟩
  induction xs with
  | nil => trivial
  | cons x xs ih => exact ⟨h x, ih⟩

theorem properFields_field {key : String} {v : Json} {fs : List (Bytes × Json)}
    (hk : (utf8 key).all isPlain = true) (hv : Proper d v) (hfs : ProperFields d fs) :
    ProperFields d (field key v :: fs) :=
  ⟨body_of_isPlain hk, hv, hfs⟩

theorem properFields_append {fs gs : List (Bytes × Json)} (hf : ProperFields d fs)
    (hg : ProperFields d gs) : ProperFields d (fs ++ gs) := by
  induction fs with
  | nil => exact hg
  | cons f fs ih => exact ⟨hf.1, hf.2.1, ih hf.2.2⟩

end Building

section Reading

/-- What is read with so much fuel is well formed. -/
private structure ReadsProper (fuel : Nat) : Prop where
  value : ∀ {depth t v r}, readValue fuel depth t = some (v, r) → Proper depth v
  items : ∀ {depth t xs r}, readItems fuel depth t = some (xs, r) → ProperItems depth xs
  fields : ∀ {depth t fs r}, readFields fuel depth t = some (fs, r) → ProperFields depth fs

private theorem readScalar_proper {depth : Nat} {t r : Bytes} {v : Json}
    (h : readScalar t = some (v, r)) : Proper depth v := by
  unfold readScalar at h
  split at h
  · cases h
    trivial
  · split at h
    · cases h
      trivial
    · split at h
      · cases h
        trivial
      · obtain ⟨⟨ds, r'⟩, hd, he⟩ := Option.map_eq_some_iff.mp h
        cases he
        exact isNumber_of_readNumber hd

private theorem ReadsProper.value_succ {fuel : Nat} (ih : ReadsProper fuel) {depth : Nat}
    {t r : Bytes} {v : Json} (h : readValue (fuel + 1) depth t = some (v, r)) : Proper depth v := by
  rw [readValue] at h
  split at h
  · obtain ⟨⟨s, r'⟩, hs, he⟩ := Option.map_eq_some_iff.mp h
    cases he
    exact body_of_readBody hs
  · split at h
    · cases h
    · next hd =>
      split at h
      · cases h
        exact ⟨Nat.pos_of_ne_zero hd, trivial⟩
      · obtain ⟨⟨xs, r'⟩, hx, he⟩ := Option.map_eq_some_iff.mp h
        cases he
        exact ⟨Nat.pos_of_ne_zero hd, ih.items hx⟩
  · split at h
    · cases h
    · next hd =>
      split at h
      · cases h
        exact ⟨Nat.pos_of_ne_zero hd, trivial⟩
      · obtain ⟨⟨fs, r'⟩, hf, he⟩ := Option.map_eq_some_iff.mp h
        cases he
        exact ⟨Nat.pos_of_ne_zero hd, ih.fields hf⟩
  · exact readScalar_proper h

private theorem ReadsProper.items_succ {fuel : Nat} (ih : ReadsProper fuel) {depth : Nat}
    {t r : Bytes} {xs : List Json} (h : readItems (fuel + 1) depth t = some (xs, r)) :
    ProperItems depth xs := by
  rw [readItems] at h
  split at h
  · cases h
  · next x t' hx =>
    split at h
    · obtain ⟨⟨ys, r'⟩, hy, he⟩ := Option.map_eq_some_iff.mp h
      cases he
      exact ⟨ih.value hx, ih.items hy⟩
    · cases h
      exact ⟨ih.value hx, trivial⟩
    · cases h

private theorem ReadsProper.fields_succ {fuel : Nat} (ih : ReadsProper fuel) {depth : Nat}
    {t r : Bytes} {fs : List (Bytes × Json)} (h : readFields (fuel + 1) depth t = some (fs, r)) :
    ProperFields depth fs := by
  rw [readFields] at h
  split at h
  · split at h
    · cases h
    · next key t₁ hk =>
      split at h
      · split at h
        · cases h
        · next v t₂ hv =>
          split at h
          · obtain ⟨⟨gs, r'⟩, hg, he⟩ := Option.map_eq_some_iff.mp h
            cases he
            exact ⟨body_of_readBody hk, ih.value hv, ih.fields hg⟩
          · cases h
            exact ⟨body_of_readBody hk, ih.value hv, trivial⟩
          · cases h
      · cases h
  · cases h

private theorem readsProper (fuel : Nat) : ReadsProper fuel := by
  induction fuel with
  | zero =>
    constructor
    · intro _ _ _ _ h
      cases h
    · intro _ _ _ _ h
      cases h
    · intro _ _ _ _ h
      cases h
  | succ fuel ih => exact ⟨ih.value_succ, ih.items_succ, ih.fields_succ⟩

/-- A value that was read is well formed. -/
theorem proper_of_parse {t : Bytes} {v : Json} (h : parse t = some v) : Proper maxDepth v := by
  unfold parse at h
  split at h
  · next v' r hv =>
    split_ifs at h
    cases h
    exact (readsProper _).value hv
  · cases h

end Reading

mutual

/-- Guarding keeps what a value stands for. -/
theorem Proper.respelled_guarded : ∀ {depth : Nat} {v : Json}, Proper depth v →
    respelled (guardedValue v) = respelled v
  | _, .null, _ => rfl
  | _, .bool _, _ => rfl
  | _, .number _, _ => rfl
  | _, .string body, h => by
    rw [guardedValue, respelled, Body.textOfBody_guarded h, respelled]
  | _, .array xs, h => by
    rw [guardedValue, respelled, ProperItems.respelled_guarded h.2, respelled]
  | _, .object fs, h => by
    rw [guardedValue, respelled, ProperFields.respelled_guarded h.2, respelled]

theorem ProperItems.respelled_guarded : ∀ {depth : Nat} {xs : List Json}, ProperItems depth xs →
    respelledItems (guardedItems xs) = respelledItems xs
  | _, [], _ => rfl
  | _, x :: xs, h => by
    rw [guardedItems, respelledItems, Proper.respelled_guarded h.1,
      ProperItems.respelled_guarded h.2, respelledItems]

theorem ProperFields.respelled_guarded : ∀ {depth : Nat} {fs : List (Bytes × Json)},
    ProperFields depth fs → respelledFields (guardedFields fs) = respelledFields fs
  | _, [], _ => rfl
  | _, (k, v) :: fs, h => by
    rw [guardedFields, respelledFields, Body.textOfBody_guarded h.1,
      Proper.respelled_guarded h.2.1, ProperFields.respelled_guarded h.2.2, respelledFields]

end

mutual

/-- A value may stand where more containers are allowed. -/
theorem Proper.mono : ∀ {d d' : Nat} {v : Json}, Proper d v → d ≤ d' → Proper d' v
  | _, _, .null, _, _ => trivial
  | _, _, .bool _, _, _ => trivial
  | _, _, .number _, h, _ => h
  | _, _, .string _, h, _ => h
  | _, _, .array _, h, hd => ⟨h.1.trans_le hd, ProperItems.mono h.2 (Nat.sub_le_sub_right hd 1)⟩
  | _, _, .object _, h, hd => ⟨h.1.trans_le hd, ProperFields.mono h.2 (Nat.sub_le_sub_right hd 1)⟩

theorem ProperItems.mono : ∀ {d d' : Nat} {xs : List Json}, ProperItems d xs → d ≤ d' →
    ProperItems d' xs
  | _, _, [], _, _ => trivial
  | _, _, _ :: _, h, hd => ⟨Proper.mono h.1 hd, ProperItems.mono h.2 hd⟩

theorem ProperFields.mono : ∀ {d d' : Nat} {fs : List (Bytes × Json)}, ProperFields d fs →
    d ≤ d' → ProperFields d' fs
  | _, _, [], _, _ => trivial
  | _, _, (_, _) :: _, h, hd => ⟨h.1, Proper.mono h.2.1 hd, ProperFields.mono h.2.2 hd⟩

end

end Json

end CallAssist
