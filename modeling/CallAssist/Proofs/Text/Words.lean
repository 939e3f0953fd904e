import CallAssist.Proofs.Text.Columns

/-! Words in a text: the bytes they are made of, the one word around a place, and its columns. -/

namespace CallAssist

namespace Bytes

def wordBytes : Bytes := utf8 "ABCDEFGHIJKLMNOPQRSTUVWXYZabcdefghijklmnopqrstuvwxyz0123456789_"

private theorem wordBytes_parts : ∀ b ∈ wordBytes, isWord b = true ∧ b < 0x80 := by
  decide +kernel

theorem isWord_iff (b : UInt8) : isWord b = true ↔ b ∈ wordBytes := by
  have hall : ∀ n : Fin 256, isWord (.ofFin n) = true → .ofFin n ∈ wordBytes := by decide +kernel
  exact ⟨hall b.toFin, fun h => (wordBytes_parts b h).1⟩

theorem isWord_eq_false_iff (b : UInt8) : isWord b = false ↔ b ∉ wordBytes := by
  rw [← isWord_iff, Bool.not_eq_true]

theorem ascii_of_mem_wordBytes {b : UInt8} (h : b ∈ wordBytes) : b < 0x80 :=
  (wordBytes_parts b h).2

/-- A text parted at one of its bytes. -/
theorem exists_parts {t : Bytes} {i : Nat} {b : UInt8} (h : t[i]? = some b) :
    ∃ before after, t = before ++ b :: after ∧ i = before.length := by
  obtain ⟨hi, hbyte⟩ := List.getElem?_eq_some_iff.mp h
  refine ⟨t.take i, t.drop (i + 1), ?_, (List.length_take_of_le (Nat.le_of_lt hi)).symm⟩
  rw [← hbyte, List.getElem_cons_drop, List.take_append_drop]

/-- A stretch of word bytes around an offset that no word byte goes on with at either end. -/
structure IsWordAround (t : Bytes) (offset start stop : Nat) : Prop where
  start_le : start ≤ offset
  le_stop : offset ≤ stop
  stop_le : stop ≤ t.length
  inside : ∀ i b, start ≤ i → i < stop → t[i]? = some b → b ∈ wordBytes
  before : ∀ i b, i + 1 = start → t[i]? = some b → b ∉ wordBytes
  behind : ∀ b, t[stop]? = some b → b ∉ wordBytes

/-- A word byte stands right behind an offset or right before it. -/
def TouchesWord (t : Bytes) (offset : Nat) : Prop :=
  (∃ b, t[offset]? = some b ∧ b ∈ wordBytes) ∨
    ∃ i b, i + 1 = offset ∧ t[i]? = some b ∧ b ∈ wordBytes

namespace IsWordAround

variable {t : Bytes} {offset start stop : Nat}

/-- A byte of the stretch. -/
theorem exists_byte (h : IsWordAround t offset start stop) {i : Nat} (hstart : start ≤ i)
    (hstop : i < stop) : ∃ b, t[i]? = some b ∧ b ∈ wordBytes := by
  have hi : i < t.length := hstop.trans_le h.stop_le
  exact ⟨t[i], List.getElem?_eq_getElem hi, h.inside i _ hstart hstop (List.getElem?_eq_getElem hi)⟩

private theorem start_le_start {start' stop' : Nat} (h : IsWordAround t offset start stop)
    (h' : IsWordAround t offset start' stop') : start ≤ start' := by
  by_contra hlt
  have hbefore := h.start_le
  have hbehind := h'.le_stop
  -- the byte before the first stretch would lie in the second
  obtain ⟨b, hb, hword⟩ := h'.exists_byte (i := start - 1) (by omega) (by omega)
  exact h.before (start - 1) b (by omega) hb hword

private theorem stop_le_stop {start' stop' : Nat} (h : IsWordAround t offset start stop)
    (h' : IsWordAround t offset start' stop') : stop ≤ stop' := by
  by_contra hlt
  have hbefore := h.start_le
  have hbehind := h'.le_stop
  obtain ⟨b, hb, hword⟩ := h.exists_byte (i := stop') (by omega) (by omega)
  exact h'.behind b hb hword

/-- There is only one such stretch. -/
theorem unique {start' stop' : Nat} (h : IsWordAround t offset start stop)
    (h' : IsWordAround t offset start' stop') : start' = start ∧ stop' = stop :=
  ⟨Nat.le_antisymm (h'.start_le_start h) (h.start_le_start h'),
    Nat.le_antisymm (h'.stop_le_stop h) (h.stop_le_stop h')⟩

/-- The stretch has bytes exactly if a word touches the offset. -/
theorem start_lt_stop_iff (h : IsWordAround t offset start stop) :
    start < stop ↔ TouchesWord t offset := by
  have hbefore := h.start_le
  have hbehind := h.le_stop
  constructor
  · intro hlt
    by_cases hend : offset < stop
    · exact .inl (h.exists_byte hbefore hend)
    · obtain ⟨b, hb⟩ := h.exists_byte (i := offset - 1) (by omega) (by omega)
      exact .inr ⟨offset - 1, b, by omega, hb⟩
  · rintro (⟨b, hb, hword⟩ | ⟨i, b, hi, hb, hword⟩)
    · have hne : stop ≠ offset := by
        rintro rfl
        exact h.behind b hb hword
      omega
    · have hne : start ≠ offset := by
        rintro rfl
        exact h.before i b hi hb hword
      omega

theorem isBoundary_start (h : IsWordAround t offset start stop) (hlt : start < stop) :
    IsBoundary t start := by
  obtain ⟨b, hb, hword⟩ := h.exists_byte (Nat.le_refl start) hlt
  obtain ⟨before, after, rfl, rfl⟩ := exists_parts hb
  exact isBoundary_before_ascii (ascii_of_mem_wordBytes hword) before after

theorem isBoundary_stop (h : IsWordAround t offset start stop) (hlt : start < stop) :
    IsBoundary t stop := by
  obtain ⟨b, hb, hword⟩ := h.exists_byte (i := stop - 1) (by omega) (by omega)
  obtain ⟨before, after, rfl, hlength⟩ := exists_parts hb
  have hstop : stop = before.length + 1 := by omega
  rw [hstop]
  exact isBoundary_behind_ascii (ascii_of_mem_wordBytes hword) before after

/-- Each byte of the stretch is one column wide. -/
theorem columnOfOffset_stop (h : IsWordAround t offset start stop) :
    columnOfOffset t stop = columnOfOffset t start + (stop - start) := by
  have hall (k : Nat) (hk : start + k ≤ stop) :
      columnOfOffset t (start + k) = columnOfOffset t start + k := by
    induction k with
    | zero => rfl
    | succ k ih =>
      obtain ⟨b, hb, hword⟩ := h.exists_byte (i := start + k) (by omega) (by omega)
      obtain ⟨before, after, ht, hlength⟩ := exists_parts hb
      have hnext := columnOfOffset_behind_ascii (ascii_of_mem_wordBytes hword) before after
      rw [← ht, ← hlength, ih (by omega)] at hnext
      exact hnext
  have hbounds := h.start_le.trans h.le_stop
  have hstop := hall (stop - start) (by omega)
  rwa [Nat.add_sub_cancel' hbounds] at hstop

end IsWordAround

/-- A word between two parts that do not go on with it is the one around each of its places. -/
theorem isWordAround_of_parts {front word rest : Bytes} (hword : ∀ b ∈ word, isWord b = true)
    (hfront : ∀ b ∈ front.getLast?, isWord b = false) (hrest : ∀ b ∈ rest.head?, isWord b = false)
    {offset : Nat} (hstart : front.length ≤ offset) (hstop : offset ≤ (front ++ word).length) :
    IsWordAround (front ++ word ++ rest) offset front.length (front ++ word).length where
  start_le := hstart
  le_stop := hstop
  stop_le := by simp
  inside i b hi hlt hb := by
    rw [List.getElem?_append_left hlt, List.getElem?_append_right hi] at hb
    exact (isWord_iff b).mp (hword b (List.mem_of_getElem? hb))
  before i b hi hb := by
    have hlt : i < front.length := by omega
    have hlast : i = front.length - 1 := by omega
    rw [List.append_assoc, List.getElem?_append_left hlt, hlast, ← List.getLast?_eq_getElem?] at hb
    exact (isWord_eq_false_iff b).mp (hfront b hb)
  behind b hb := by
    rw [List.getElem?_append_right (Nat.le_refl _), Nat.sub_self, ← List.head?_eq_getElem?] at hb
    exact (isWord_eq_false_iff b).mp (hrest b hb)

end Bytes

end CallAssist
