import CallAssist.Proofs.Text.Runes
import CallAssist.Text.Fold

/-! Characters without letter case. A point or a hyphen comes from nothing but itself when names are
brought to one letter case. -/

namespace CallAssist

namespace Bytes

private theorem lowerByte_eq_dot {b : UInt8} (h : lowerByte b = 0x2E) : b = 0x2E := by
  have all : ∀ n : Fin 256, lowerByte (.ofFin n) = 0x2E → UInt8.ofFin n = 0x2E := by decide +kernel
  exact all b.toFin h

/-- Lower case brings no point into a name. -/
theorem dot_not_mem_lowerName {t : Bytes} (h : 0x2E ∉ t) : 0x2E ∉ lowerName t := by
  rw [lowerName, chars]
  intro hd
  obtain ⟨c, hc, hd⟩ := List.mem_flatMap.mp hd
  obtain ⟨r, hr, rfl⟩ := List.mem_map.mp hc
  split_ifs at hd
  · simp at hd
  · simp at hd
  · obtain ⟨b, hb, hl⟩ := List.mem_map.mp hd
    obtain rfl := lowerByte_eq_dot hl
    cases r with
    | point c =>
      apply h
      rw [← ofRunes_runes t]
      exact List.mem_flatMap.mpr ⟨_, hr, hb⟩
    | stray b => exact absurd hb (show 0x2E ∉ String.utf8EncodeChar '\ufffd' by decide)

private theorem upperByte_eq_hyphen {b : UInt8} (h : upperByte b = 0x2D) : b = 0x2D := by
  have all : ∀ n : Fin 256, upperByte (.ofFin n) = 0x2D → UInt8.ofFin n = 0x2D := by decide +kernel
  exact all b.toFin h

private def foldChar (c : Char) : Bytes :=
  if c == 'ſ' then [0x53]
  else if c == '\u212a' then [0x4B]
  else (String.utf8EncodeChar c).map upperByte

private theorem foldChar_ne_nil (c : Char) : foldChar c ≠ [] := by
  rw [foldChar]
  split_ifs
  · simp
  · simp
  · simp [String.utf8EncodeChar_ne_nil]

private theorem bytes_eq_hyphen {r : Rune} (h : foldChar r.char = [0x2D]) : r.bytes = [0x2D] := by
  rw [foldChar] at h
  split_ifs at h
  · simp at h
  · simp at h
  · obtain ⟨b, hb, hl⟩ := List.map_eq_singleton_iff.mp h
    obtain rfl := upperByte_eq_hyphen hl
    cases r with
    | point c => exact hb
    | stray b => exact absurd hb (show String.utf8EncodeChar '\ufffd' ≠ [0x2D] by decide)

/-- A hyphen alone is the only text that agrees with it up to letter case. -/
theorem eq_hyphen_of_foldKey {t : Bytes} (h : foldKey t = foldKey [0x2D]) : t = [0x2D] := by
  have h : ((runes t).map Rune.char).flatMap foldChar = [0x2D] := h
  rw [← ofRunes_runes t]
  cases hr : runes t with
  | nil => simp [hr] at h
  | cons r rs =>
    rw [hr, List.map_cons, List.flatMap_cons, List.append_eq_singleton_iff] at h
    obtain ⟨hnil, _⟩ | ⟨hhyphen, hrest⟩ := h
    · exact absurd hnil (foldChar_ne_nil _)
    · have hrs : rs = [] := by
        cases rs with
        | nil => rfl
        | cons r' rs => exact absurd (List.append_eq_nil_iff.mp hrest).1 (foldChar_ne_nil _)
      rw [hrs, ofRunes_cons, bytes_eq_hyphen hhyphen]
      rfl

end Bytes

end CallAssist
