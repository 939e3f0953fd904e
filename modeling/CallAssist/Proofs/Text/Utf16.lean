import CallAssist.Json.Text
import CallAssist.Proofs.Text.Columns

/-! Texts in UTF-16, and how their columns and byte offsets correspond. A place between runes and its
column lead to each other; a column between the halves of a pair leads behind the pair, and one behind
the text to its end. -/

namespace CallAssist

/-- The UTF-16 units of a character: its number, or two halves for one beyond the basic plane. -/
def utf16Char (c : Char) : List UInt16 :=
  let n := c.toNat
  if n < 0x10000 then [.ofNat n]
  else [.ofNat (0xD800 + (n - 0x10000) / 0x400), .ofNat (0xDC00 + (n - 0x10000) % 0x400)]

def utf16 (cs : List Char) : List UInt16 := cs.flatMap utf16Char

/-- A character is one unit of its own number, which is no half of a pair, or a pair of halves from
which its number is read. -/
theorem utf16Char_cases (c : Char) :
    (c.toNat < 0x10000 ∧ ∃ unit, utf16Char c = [unit] ∧ unit.toNat = c.toNat ∧
      Json.isLowHalf unit.toNat = false) ∨
    (0x10000 ≤ c.toNat ∧ ∃ high low, utf16Char c = [high, low] ∧
      Json.isHighHalf high.toNat = true ∧ Json.isLowHalf low.toNat = true ∧
      c.toNat = 0x10000 + (high.toNat - 0xD800) * 0x400 + (low.toNat - 0xDC00)) := by
  have hvalid : c.toNat < 0xD800 ∨ 0xDFFF < c.toNat ∧ c.toNat < 0x110000 := c.valid
  have hunit {n : Nat} (h : n < 0x10000) : (UInt16.ofNat n).toNat = n := UInt16.toNat_ofNat_of_lt h
  by_cases h : c.toNat < 0x10000
  · refine .inl ⟨h, _, if_pos h, hunit h, ?_⟩
    rw [hunit h]
    simp only [Json.isLowHalf, Bool.and_eq_false_iff, decide_eq_false_iff_not]
    omega
  · refine .inr ⟨Nat.le_of_not_lt h, _, _, if_neg h, ?_⟩
    rw [hunit (by omega), hunit (by omega)]
    simp only [Json.isHighHalf, Json.isLowHalf, Bool.and_eq_true, decide_eq_true_eq]
    omega

theorem utf16_cons (c : Char) (cs : List Char) : utf16 (c :: cs) = utf16Char c ++ utf16 cs :=
  List.flatMap_cons

theorem utf16_append (cs ds : List Char) : utf16 (cs ++ ds) = utf16 cs ++ utf16 ds :=
  List.flatMap_append

/-- No text starts with a low half. -/
theorem isLowHalf_head (cs : List Char) :
    ∀ unit ∈ (utf16 cs).head?, Json.isLowHalf unit.toNat = false := by
  intro unit hunit
  cases cs with
  | nil => cases hunit
  | cons c cs =>
    rw [utf16_cons] at hunit
    rcases utf16Char_cases c with ⟨_, first, hc, _, hfirst⟩ | ⟨_, first, second, hc, hfirst, _⟩
    · rw [hc] at hunit
      obtain rfl := Option.some.inj hunit
      exact hfirst
    · rw [hc] at hunit
      obtain rfl := Option.some.inj hunit
      simp only [Json.isHighHalf, Json.isLowHalf, Bool.and_eq_true, decide_eq_true_eq,
        Bool.and_eq_false_iff, decide_eq_false_iff_not] at hfirst ⊢
      omega

/-- A rune has as many units as the character shown for it. -/
theorem Rune.length_utf16Char (r : Rune) : (utf16Char r.char).length = r.units := by
  cases r with
  | stray b => rfl
  | point c =>
    have hval : c.val < 0x10000 ↔ c.toNat < 0x10000 := UInt32.lt_iff_toNat_lt
    rw [units, char]
    rcases utf16Char_cases c with ⟨hlow, _, hc, _⟩ | ⟨hhigh, _, _, hc, _⟩
    · rw [hc, if_pos (hval.mpr hlow)]
      rfl
    · rw [hc, if_neg (mt hval.mp (Nat.not_lt.mpr hhigh))]
      rfl

theorem Rune.units_le_two (r : Rune) : r.units ≤ 2 := by
  rw [← length_utf16Char]
  rcases utf16Char_cases r.char with ⟨_, _, hc, _⟩ | ⟨_, _, _, hc, _⟩
  · rw [hc]
    exact Nat.le_succ 1
  · rw [hc]
    exact Nat.le_refl 2

/-- The second unit of a rune that has two is a low half. -/
theorem Rune.exists_pair {r : Rune} (h : r.units = 2) :
    ∃ high low, utf16Char r.char = [high, low] ∧ Json.isLowHalf low.toNat = true := by
  rw [← length_utf16Char] at h
  rcases utf16Char_cases r.char with ⟨_, unit, hc, _⟩ | ⟨_, high, low, hc, _, hlow, _⟩
  · rw [hc] at h
    cases h
  · exact ⟨high, low, hc, hlow⟩

namespace Bytes

theorem length_utf16 (rs : List Rune) : (utf16 (rs.map Rune.char)).length = unitCount rs := by
  induction rs with
  | nil => rfl
  | cons r rs ih =>
    rw [List.map_cons, utf16_cons, List.length_append, r.length_utf16Char, ih, unitCount]

/-- The column of a place between two runes, or at one of the ends. -/
def IsColumn (t : Bytes) (column : Nat) : Prop :=
  ∃ rs ss, runes t = rs ++ ss ∧ column = unitCount rs

/-- A column between the halves of a pair: the unit right behind it is a low half. -/
def InsidePair (t : Bytes) (column : Nat) : Prop :=
  ∃ unit, (utf16 (chars t))[column]? = some unit ∧ Json.isLowHalf unit.toNat = true

private theorem getElem?_utf16 {t : Bytes} {rs ss : List Rune} (h : runes t = rs ++ ss) (i : Nat) :
    (utf16 (chars t))[unitCount rs + i]? = (utf16 (ss.map Rune.char))[i]? := by
  rw [chars, h, List.map_append, utf16_append, ← length_utf16,
    List.getElem?_append_right (Nat.le_add_right _ _), Nat.add_sub_cancel_left]

theorem IsColumn.not_insidePair {t : Bytes} {column : Nat} (h : IsColumn t column) :
    ¬ InsidePair t column := by
  obtain ⟨rs, ss, ht, rfl⟩ := h
  rintro ⟨unit, hunit, hhalf⟩
  have hhead := getElem?_utf16 ht 0
  rw [Nat.add_zero, hunit, ← List.head?_eq_getElem?] at hhead
  rw [isLowHalf_head _ unit hhead.symm] at hhalf
  cases hhalf

private theorem place_of_column {rs : List Rune} {column : Nat} (h : column ≤ unitCount rs) :
    (∃ ps ss, rs = ps ++ ss ∧ column = unitCount ps) ∨
      ∃ ps r ss, rs = ps ++ r :: ss ∧ r.units = 2 ∧ column = unitCount ps + 1 := by
  induction rs generalizing column with
  | nil => exact .inl ⟨[], [], rfl, Nat.le_zero.mp h⟩
  | cons r rs ih =>
    rw [unitCount] at h
    have htwo := r.units_le_two
    by_cases hfirst : column = 0
    · exact .inl ⟨[], r :: rs, rfl, hfirst⟩
    · by_cases hin : column < r.units
      · refine .inr ⟨[], r, rs, rfl, by omega, ?_⟩
        rw [unitCount]
        omega
      · have hrest : column - r.units ≤ unitCount rs := by omega
        rcases ih hrest with ⟨ps, ss, rfl, hcolumn⟩ | ⟨ps, r', ss, rfl, hpair, hcolumn⟩
        · refine .inl ⟨r :: ps, ss, rfl, ?_⟩
          rw [unitCount]
          omega
        · refine .inr ⟨r :: ps, r', ss, rfl, hpair, ?_⟩
          rw [unitCount]
          omega

theorem insidePair_iff {t : Bytes} {column : Nat} :
    InsidePair t column ↔
      ∃ rs r ss, runes t = rs ++ r :: ss ∧ r.units = 2 ∧ column = unitCount rs + 1 := by
  constructor
  · intro h
    obtain ⟨unit, hunit, -⟩ := id h
    obtain ⟨hlt, -⟩ := List.getElem?_eq_some_iff.mp hunit
    rw [chars, length_utf16] at hlt
    rcases place_of_column (Nat.le_of_lt hlt) with hplace | hplace
    · exact absurd h (IsColumn.not_insidePair hplace)
    · exact hplace
  · rintro ⟨rs, r, ss, ht, hpair, rfl⟩
    obtain ⟨high, low, hr, hlow⟩ := Rune.exists_pair hpair
    refine ⟨low, ?_, hlow⟩
    rw [getElem?_utf16 ht 1, List.map_cons, utf16_cons, hr]
    rfl

/-- Where the way from a column to its place and back ends. -/
theorem IsColumn.there_and_back {t : Bytes} {column : Nat} (h : IsColumn t column) :
    columnOfOffset t (offsetOfColumn t column) = column := by
  obtain ⟨rs, ss, ht, rfl⟩ := h
  rw [offsetOfColumn_of_runes ht, columnOfOffset_of_runes ht]

theorem InsidePair.there_and_back {t : Bytes} {column : Nat} (h : InsidePair t column) :
    columnOfOffset t (offsetOfColumn t column) = column + 1 := by
  obtain ⟨rs, r, ss, ht, hpair, rfl⟩ := insidePair_iff.mp h
  have hbehind : runes t = (rs ++ [r]) ++ ss := by
    rw [ht, List.append_assoc, List.singleton_append]
  rw [offsetOfColumn_within ht (Nat.lt_succ_self _) (by omega), columnOfOffset_of_runes hbehind,
    unitCount_append, unitCount, hpair]
  rfl

theorem there_and_back_beyond {t : Bytes} {column : Nat} (h : unitCount (runes t) < column) :
    columnOfOffset t (offsetOfColumn t column) = unitCount (runes t) := by
  have hend := columnOfOffset_of_runes (List.append_nil (runes t)).symm
  rwa [ofRunes_runes, ← offsetOfColumn_beyond (Nat.le_of_lt h)] at hend

/-- There are no other columns. -/
theorem column_cases (t : Bytes) (column : Nat) :
    IsColumn t column ∨ InsidePair t column ∨ unitCount (runes t) < column := by
  by_cases h : column ≤ unitCount (runes t)
  · rcases place_of_column h with hplace | hplace
    · exact .inl hplace
    · exact .inr (.inl (insidePair_iff.mpr hplace))
  · exact .inr (.inr (Nat.lt_of_not_le h))

/-- Columns and byte offsets of a text correspond exactly. A column leads to a place between runes,
and never to the left of where a smaller one leads. Such a place and its column lead to each other,
the ends of the text among them. From any column the way there and back ends at the column itself, one
unit further where it falls inside a pair, and at the last column where it lies behind the text. For
well-formed text the last column is its length in UTF-16. -/
theorem columns_correspond (t : Bytes) :
    (∀ column, IsBoundary t (offsetOfColumn t column) ∧ offsetOfColumn t column ≤ t.length) ∧
    (∀ column column', column ≤ column' → offsetOfColumn t column ≤ offsetOfColumn t column') ∧
    (∀ rs ss, runes t = rs ++ ss →
      columnOfOffset t (ofRunes rs).length = unitCount rs ∧
      offsetOfColumn t (unitCount rs) = (ofRunes rs).length) ∧
    (IsBoundary t 0 ∧ IsBoundary t t.length ∧
      ∀ offset, IsBoundary t offset → offsetOfColumn t (columnOfOffset t offset) = offset) ∧
    (∀ column,
      (IsColumn t column → columnOfOffset t (offsetOfColumn t column) = column) ∧
      (InsidePair t column → columnOfOffset t (offsetOfColumn t column) = column + 1) ∧
      (unitCount (runes t) < column →
        columnOfOffset t (offsetOfColumn t column) = unitCount (runes t)) ∧
      (IsColumn t column ∨ InsidePair t column ∨ unitCount (runes t) < column)) ∧
    (isUtf8 t = true → ∃ cs, t = ofChars cs ∧ unitCount (runes t) = (utf16 cs).length) := by
  refine ⟨fun column => ⟨isBoundary_offsetOfColumn t column, offsetOfColumn_le t column⟩,
    fun _ _ h => offsetOfColumn_mono t h, ?_, ?_, ?_, ?_⟩
  · intro rs ss h
    exact ⟨columnOfOffset_of_runes h, offsetOfColumn_of_runes h⟩
  · exact ⟨isBoundary_zero t, isBoundary_length t, fun _ h => h.offsetOfColumn_columnOfOffset⟩
  · intro column
    exact ⟨IsColumn.there_and_back, InsidePair.there_and_back, there_and_back_beyond,
      column_cases t column⟩
  · intro h
    exact ⟨chars t, (ofChars_chars h).symm, (length_utf16 (runes t)).symm⟩

/-- A column before a pair, one inside it and one behind a text that ends in a stray byte. -/
theorem columns_correspond_around_pair :
    let t := utf8 "a😀" ++ [0xFF]
    IsColumn t 1 ∧ InsidePair t 2 ∧ unitCount (runes t) < 9 ∧ IsBoundary t 5 ∧
      columnOfOffset t (offsetOfColumn t 1) = 1 ∧ columnOfOffset t (offsetOfColumn t 2) = 3 ∧
      columnOfOffset t (offsetOfColumn t 9) = unitCount (runes t) ∧
      offsetOfColumn t (columnOfOffset t 5) = 5 ∧
      isUtf8 (utf8 "a😀") = true ∧ ∃ cs, utf8 "a😀" = ofChars cs ∧
        unitCount (runes (utf8 "a😀")) = (utf16 cs).length := by
  intro t
  have hrunes : runes t = [.point 'a', .point '😀', .stray 0xFF] := by decide +kernel
  have hcolumn : IsColumn t 1 := ⟨[.point 'a'], [.point '😀', .stray 0xFF], hrunes, rfl⟩
  have hpair : InsidePair t 2 := ⟨0xDE00, by decide +kernel, rfl⟩
  have hbeyond : unitCount (runes t) < 9 := by decide +kernel
  have hplace : IsBoundary t 5 := ⟨[.point 'a', .point '😀'], [.stray 0xFF], hrunes, rfl⟩
  have hutf8 : isUtf8 (utf8 "a😀") = true := by decide +kernel
  obtain ⟨-, -, -, ⟨-, -, hback⟩, hcolumns, -⟩ := columns_correspond t
  obtain ⟨-, -, -, -, -, hlength⟩ := columns_correspond (utf8 "a😀")
  exact ⟨hcolumn, hpair, hbeyond, hplace, (hcolumns 1).1 hcolumn, (hcolumns 2).2.1 hpair,
    (hcolumns 9).2.2.1 hbeyond, hback 5 hplace, hutf8, hlength hutf8⟩

end Bytes

end CallAssist
