import CallAssist.Proofs.Text.Runes

/-! UTF-16 columns as prefixes of a text, and the places between its runes, where columns and
offsets lead to each other. -/

namespace CallAssist

namespace Bytes

/-- The UTF-16 units of a sequence of runes. -/
def unitCount : List Rune → Nat
  | [] => 0
  | r :: rs => r.units + unitCount rs

/-- The shortest whole-rune prefix of a text that has at least the given number of units; all of the
text if it has fewer. -/
def columnPrefix (t : Bytes) (column : Nat) : Bytes :=
  ofRunes (((runes t).inits.find? fun rs => column ≤ unitCount rs).getD (runes t))

private theorem go_eq (column : Nat) (rs : List Rune) (units : Nat) :
    offsetOfColumn.go column rs units =
      (ofRunes ((rs.inits.find? fun q => column ≤ units + unitCount q).getD rs)).length := by
  induction rs generalizing units with
  | nil =>
    rw [offsetOfColumn.go, List.inits, List.find?_singleton]
    split <;> rfl
  | cons r rs ih =>
    rw [offsetOfColumn.go, List.inits_cons, List.find?_cons]
    by_cases h : column ≤ units
    · simp [h, unitCount, ofRunes]
    · have hnil : decide (column ≤ units + unitCount []) = false := decide_eq_false h
      have hcons (q : List Rune) : units + unitCount (r :: q) = units + r.units + unitCount q := by
        simp [unitCount, Nat.add_assoc]
      rw [if_neg h, ih, hnil]
      simp only [List.find?_map, Function.comp_def, hcons]
      cases rs.inits.find? fun q => column ≤ units + r.units + unitCount q with
      | none => simp
      | some q => simp

theorem exists_columnPrefix (t : Bytes) (column : Nat) :
    ∃ rs ss, runes t = rs ++ ss ∧ columnPrefix t column = ofRunes rs := by
  rw [columnPrefix]
  cases h : (runes t).inits.find? fun rs => column ≤ unitCount rs with
  | none => exact ⟨runes t, [], (List.append_nil _).symm, rfl⟩
  | some rs =>
    obtain ⟨ss, hs⟩ := (List.mem_inits _ _).mp (List.mem_of_find?_eq_some h)
    exact ⟨rs, ss, hs.symm, rfl⟩

theorem columnPrefix_isPrefix (t : Bytes) (column : Nat) : columnPrefix t column <+: t := by
  obtain ⟨rs, ss, ht, hcolumn⟩ := exists_columnPrefix t column
  exact ⟨ofRunes ss, by rw [hcolumn, ← ofRunes_append, ← ht, ofRunes_runes]⟩

theorem offsetOfColumn_eq (t : Bytes) (column : Nat) :
    offsetOfColumn t column = (columnPrefix t column).length := by
  rw [offsetOfColumn, go_eq, columnPrefix]
  simp only [Nat.zero_add]

/-- What stands before a column is the shortest prefix that reaches it. -/
theorem take_offsetOfColumn (t : Bytes) (column : Nat) :
    t.take (offsetOfColumn t column) = columnPrefix t column := by
  rw [offsetOfColumn_eq]
  exact (List.prefix_iff_eq_take.mp (columnPrefix_isPrefix t column)).symm

theorem offsetOfColumn_le (t : Bytes) (column : Nat) : offsetOfColumn t column ≤ t.length := by
  rw [offsetOfColumn_eq]
  exact (columnPrefix_isPrefix t column).length_le

section Boundaries

/-- A place between two runes of a text, or at one of its ends. -/
def IsBoundary (t : Bytes) (offset : Nat) : Prop :=
  ∃ rs ss, runes t = rs ++ ss ∧ offset = (ofRunes rs).length

theorem isBoundary_zero (t : Bytes) : IsBoundary t 0 := ⟨[], runes t, rfl, rfl⟩

theorem isBoundary_length (t : Bytes) : IsBoundary t t.length :=
  ⟨runes t, [], (List.append_nil _).symm, by rw [ofRunes_runes]⟩

/-- A column leads to a place between runes. -/
theorem isBoundary_offsetOfColumn (t : Bytes) (column : Nat) :
    IsBoundary t (offsetOfColumn t column) := by
  obtain ⟨rs, ss, ht, hcolumn⟩ := exists_columnPrefix t column
  exact ⟨rs, ss, ht, by rw [offsetOfColumn_eq, hcolumn]⟩

theorem unitCount_append (rs ss : List Rune) :
    unitCount (rs ++ ss) = unitCount rs + unitCount ss := by
  induction rs with
  | nil => exact (Nat.zero_add _).symm
  | cons r rs ih => rw [List.cons_append, unitCount, unitCount, ih, Nat.add_assoc]

private theorem bytes_length_pos (r : Rune) : 0 < r.bytes.length := by
  cases r with
  | point c => exact List.length_pos_iff.mpr String.utf8EncodeChar_ne_nil
  | stray b => exact Nat.one_pos

private theorem units_pos (r : Rune) : 0 < r.units := by
  cases r with
  | point c =>
    rw [Rune.units]
    split
    · exact Nat.one_pos
    · exact Nat.two_pos
  | stray b => exact Nat.one_pos

private theorem columnOfOffset_go (rs ss : List Rune) (start : Nat) :
    columnOfOffset.go (start + (ofRunes rs).length) (rs ++ ss) start = unitCount rs := by
  induction rs generalizing start with
  | nil =>
    cases ss with
    | nil => rfl
    | cons r ss => exact if_pos (Nat.le_refl start)
  | cons r rs ih =>
    have hpos := bytes_length_pos r
    have hlength : start + (ofRunes (r :: rs)).length =
        start + r.bytes.length + (ofRunes rs).length := by
      rw [ofRunes_cons, List.length_append, Nat.add_assoc]
    rw [List.cons_append, columnOfOffset.go, hlength, if_neg (by omega), ih, unitCount]

private theorem offsetOfColumn_go_append (rs ss : List Rune) {column units : Nat}
    (h : units + unitCount rs ≤ column) :
    offsetOfColumn.go column (rs ++ ss) units =
      (ofRunes rs).length + offsetOfColumn.go column ss (units + unitCount rs) := by
  induction rs generalizing units with
  | nil => exact (Nat.zero_add _).symm
  | cons r rs ih =>
    have hpos := units_pos r
    rw [unitCount, ← Nat.add_assoc] at h ⊢
    rw [List.cons_append, offsetOfColumn.go, if_neg (by omega), ih h, ofRunes_cons,
      List.length_append, Nat.add_assoc r.bytes.length]

private theorem offsetOfColumn_go_of_le {column units : Nat} (h : column ≤ units)
    (rs : List Rune) : offsetOfColumn.go column rs units = 0 := by
  cases rs with
  | nil => rfl
  | cons r rs => exact if_pos h

private theorem offsetOfColumn_go_mono {column column' : Nat} (h : column ≤ column')
    (rs : List Rune) (units : Nat) :
    offsetOfColumn.go column rs units ≤ offsetOfColumn.go column' rs units := by
  induction rs generalizing units with
  | nil => exact Nat.le_refl 0
  | cons r rs ih =>
    by_cases hfound : column ≤ units
    · rw [offsetOfColumn_go_of_le hfound]
      exact Nat.zero_le _
    · rw [offsetOfColumn.go, offsetOfColumn.go, if_neg hfound, if_neg (by omega)]
      exact Nat.add_le_add_left (ih (units + r.units)) _

/-- A column further to the right does not lead to a place further to the left. -/
theorem offsetOfColumn_mono (t : Bytes) {column column' : Nat} (h : column ≤ column') :
    offsetOfColumn t column ≤ offsetOfColumn t column' :=
  offsetOfColumn_go_mono h (runes t) 0

/-- The column of a place behind whole runes is the number of their units. -/
theorem columnOfOffset_of_runes {t : Bytes} {rs ss : List Rune} (h : runes t = rs ++ ss) :
    columnOfOffset t (ofRunes rs).length = unitCount rs := by
  have := columnOfOffset_go rs ss 0
  rwa [Nat.zero_add, ← h] at this

private theorem offsetOfColumn_append {t : Bytes} {rs ss : List Rune} (h : runes t = rs ++ ss)
    {column : Nat} (hcolumn : unitCount rs ≤ column) :
    offsetOfColumn t column =
      (ofRunes rs).length + offsetOfColumn.go column ss (unitCount rs) := by
  have hpassed := offsetOfColumn_go_append rs ss ((Nat.zero_add _).trans_le hcolumn)
  rwa [Nat.zero_add, ← h] at hpassed

theorem offsetOfColumn_of_runes {t : Bytes} {rs ss : List Rune} (h : runes t = rs ++ ss) :
    offsetOfColumn t (unitCount rs) = (ofRunes rs).length := by
  rw [offsetOfColumn_append h (Nat.le_refl _), offsetOfColumn_go_of_le (Nat.le_refl _),
    Nat.add_zero]

/-- A column that a rune reaches or passes leads behind that rune. -/
theorem offsetOfColumn_within {t : Bytes} {rs ss : List Rune} {r : Rune}
    (h : runes t = rs ++ r :: ss) {column : Nat} (hstart : unitCount rs < column)
    (hstop : column ≤ unitCount rs + r.units) :
    offsetOfColumn t column = (ofRunes (rs ++ [r])).length := by
  rw [offsetOfColumn_append h (Nat.le_of_lt hstart), offsetOfColumn.go,
    if_neg (Nat.not_le.mpr hstart), offsetOfColumn_go_of_le hstop, ofRunes_append, ofRunes_cons,
    List.length_append, List.length_append]
  rfl

/-- A column behind the text leads to its end. -/
theorem offsetOfColumn_beyond {t : Bytes} {column : Nat} (h : unitCount (runes t) ≤ column) :
    offsetOfColumn t column = t.length := by
  rw [offsetOfColumn_append (List.append_nil (runes t)).symm h, offsetOfColumn.go, ofRunes_runes,
    Nat.add_zero]

/-- The column of a boundary leads back to it. -/
theorem IsBoundary.offsetOfColumn_columnOfOffset {t : Bytes} {offset : Nat}
    (h : IsBoundary t offset) : offsetOfColumn t (columnOfOffset t offset) = offset := by
  obtain ⟨rs, ss, ht, rfl⟩ := h
  rw [columnOfOffset_of_runes ht, offsetOfColumn_of_runes ht]

/-- A text is read in two parts where it is parted at a boundary. -/
theorem IsBoundary.runes_split {t : Bytes} {offset : Nat} (h : IsBoundary t offset) :
    runes t = runes (t.take offset) ++ runes (t.drop offset) := by
  obtain ⟨rs, ss, ht, rfl⟩ := h
  have hparts : t = ofRunes rs ++ ofRunes ss := by rw [← ofRunes_append, ← ht, ofRunes_runes]
  obtain ⟨hrs, hss⟩ := runes_ofRunes_parts t ht
  rw [ht, hparts, List.take_left, List.drop_left, hrs, hss]

theorem IsBoundary.le_length {t : Bytes} {offset : Nat} (h : IsBoundary t offset) :
    offset ≤ t.length := by
  obtain ⟨rs, ss, ht, rfl⟩ := h
  rw [← ofRunes_runes t, ht, ofRunes_append, List.length_append]
  exact Nat.le_add_right _ _

theorem IsBoundary.columnOfOffset_le {t : Bytes} {offset : Nat} (h : IsBoundary t offset) :
    columnOfOffset t offset ≤ unitCount (runes t) := by
  obtain ⟨rs, ss, ht, rfl⟩ := h
  rw [columnOfOffset_of_runes ht, ht, unitCount_append]
  exact Nat.le_add_right _ _

private theorem units_ascii {b : UInt8} (hb : b < 0x80) :
    (Rune.point (Char.ofNat b.toNat)).units = 1 := by
  have hlow : (Char.ofNat b.toNat).val.toNat < 0x80 := by
    by_contra hhigh
    refine absurd hb (UInt8.not_lt.mpr (encode_high (Nat.le_of_not_lt hhigh) b ?_))
    rw [encode_eq_single.mpr ⟨hb, rfl⟩]
    exact List.mem_singleton_self b
  refine if_pos (UInt32.lt_iff_toNat_lt.mpr ?_)
  exact Nat.lt_trans hlow (by decide)

theorem isBoundary_before_ascii {b : UInt8} (hb : b < 0x80) (before after : Bytes) :
    IsBoundary (before ++ b :: after) before.length :=
  ⟨runes before, _, runes_append_ascii hb before after, by rw [ofRunes_runes]⟩

private theorem runes_behind_ascii {b : UInt8} (hb : b < 0x80) (before after : Bytes) :
    runes (before ++ b :: after) =
      (runes before ++ [.point (Char.ofNat b.toNat)]) ++ runes after ∧
    before.length + 1 = (ofRunes (runes before ++ [.point (Char.ofNat b.toNat)])).length := by
  constructor
  · rw [runes_append_ascii hb, List.append_assoc, List.singleton_append]
  · rw [ofRunes_append, ofRunes_runes, ofRunes_cons, Rune.bytes, encode_eq_single.mpr ⟨hb, rfl⟩]
    simp [ofRunes]

theorem isBoundary_behind_ascii {b : UInt8} (hb : b < 0x80) (before after : Bytes) :
    IsBoundary (before ++ b :: after) (before.length + 1) :=
  ⟨_, _, runes_behind_ascii hb before after⟩

/-- An ASCII character is one column wide. -/
theorem columnOfOffset_behind_ascii {b : UInt8} (hb : b < 0x80) (before after : Bytes) :
    columnOfOffset (before ++ b :: after) (before.length + 1) =
      columnOfOffset (before ++ b :: after) before.length + 1 := by
  obtain ⟨hrunes, hlength⟩ := runes_behind_ascii hb before after
  have hhere := columnOfOffset_of_runes (runes_append_ascii hb before after)
  rw [ofRunes_runes] at hhere
  rw [hlength, columnOfOffset_of_runes hrunes, hhere, unitCount_append, unitCount, units_ascii hb]
  rfl

private theorem count_bytes_le {b : UInt8} (hb : b < 0x80) (r : Rune) :
    r.bytes.count b ≤ r.units := by
  have hone {t : Bytes} (ht : t.length = 1) : t.count b ≤ r.units := by
    have := List.count_le_length (a := b) (l := t)
    have := units_pos r
    omega
  cases r with
  | stray a => exact hone rfl
  | point c =>
    by_cases hc : 0x80 ≤ c.val.toNat
    · have hnone : (String.utf8EncodeChar c).count b = 0 := by
        rw [List.count_eq_zero]
        intro hmem
        have := encode_high hc b hmem
        exact absurd hb (UInt8.not_lt.mpr this)
      rw [Rune.bytes, hnone]
      exact Nat.zero_le _
    · rcases encode_cases c with ⟨_, h⟩ | ⟨h, _⟩ | ⟨h, _⟩ | ⟨h, _⟩
      · exact hone (by rw [Rune.bytes, h]; rfl)
      · omega
      · omega
      · omega

/-- An ASCII character does not occur more often than a text has units. -/
theorem count_le_unitCount {b : UInt8} (hb : b < 0x80) (t : Bytes) :
    t.count b ≤ unitCount (runes t) := by
  have hall (rs : List Rune) : (ofRunes rs).count b ≤ unitCount rs := by
    induction rs with
    | nil => exact Nat.le_refl 0
    | cons r rs ih =>
      rw [ofRunes_cons, List.count_append, unitCount]
      exact Nat.add_le_add (count_bytes_le hb r) ih
  simpa using hall (runes t)

end Boundaries

end Bytes

end CallAssist
