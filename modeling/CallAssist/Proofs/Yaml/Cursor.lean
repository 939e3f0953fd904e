import CallAssist.Yaml.Cursor
import Mathlib.Data.List.Infix
import Mathlib.Tactic.Common

/-! Walking over a printable text on one line. However the text is cut into portions, a cursor finds
the characters it asks for, and what it passes is what stands there. -/

namespace CallAssist

namespace Yaml

def isPrintable (b : UInt8) : Bool := 0x20 ≤ b && b ≤ 0x7E

def charOf (b : UInt8) : Char := Char.ofNat b.toNat

section Bytes

variable {t : Bytes}

private theorem forall_byte {p : UInt8 → Prop} (h : ∀ n : Fin 256, p (.ofFin n)) (b : UInt8) :
    p b := h b.toFin

theorem charOf_printable {b : UInt8} (h : isPrintable b = true) :
    isAllowed (charOf b) = true ∧ isBreak (charOf b) = false ∧ charOf b ≠ '\ufeff' ∧
      String.utf8EncodeChar (charOf b) = [b] := by
  revert h
  exact forall_byte (p := fun b => isPrintable b = true → isAllowed (charOf b) = true ∧
    isBreak (charOf b) = false ∧ charOf b ≠ '\ufeff' ∧ String.utf8EncodeChar (charOf b) = [b])
    (by decide +kernel) b

/-- The bytes of the characters of a text are the text. -/
theorem ofChars_map_charOf (h : ∀ b ∈ t, isPrintable b = true) :
    Bytes.ofChars (t.map charOf) = t := by
  induction t with
  | nil => rfl
  | cons b t ih =>
    obtain ⟨hb, ht⟩ := List.forall_mem_cons.mp h
    rw [List.map_cons, Bytes.ofChars, List.flatMap_cons, (charOf_printable hb).2.2.2]
    exact congrArg (b :: ·) (ih ht)

private theorem narrowFront_printable {b : UInt8} (h : isPrintable b = true) (t : Bytes) :
    narrowFront (b :: t) = .char (charOf b) t := by
  have hl : sequenceLength? b.toNat = some 1 := by
    have h' : b ≤ 0x7E := by simp_all [isPrintable]
    have h' : b.toNat ≤ 0x7E := h'
    rw [sequenceLength?, if_pos (by omega)]
  unfold narrowFront
  simp only [hl]
  rfl

private theorem decodeFrom_printable (h : ∀ b ∈ t, isPrintable b = true) :
    ∀ {fuel : Nat} (cs : List Char), t.length < fuel →
      decodeFrom narrowFront fuel cs t = ⟨cs.reverse ++ t.map charOf, [], false⟩ := by
  induction t with
  | nil =>
    intro fuel cs hf
    obtain ⟨fuel, rfl⟩ := Nat.exists_eq_add_one.mpr (Nat.zero_lt_of_lt hf)
    simp [decodeFrom]
  | cons b t ih =>
    intro fuel cs hf
    obtain ⟨fuel, rfl⟩ := Nat.exists_eq_add_one.mpr (Nat.zero_lt_of_lt hf)
    obtain ⟨hb, ht⟩ := List.forall_mem_cons.mp h
    have hf : t.length < fuel := by simpa using hf
    rw [decodeFrom, narrowFront_printable hb]
    simp [(charOf_printable hb).1, ih ht _ hf]

private theorem decode_printable (h : ∀ b ∈ t, isPrintable b = true) :
    decode narrowFront t = ⟨t.map charOf, [], false⟩ := by
  exact decodeFrom_printable h [] (Nat.lt_succ_self t.length)

def Holds (ps : List Portion) (cs : List Char) : Prop :=
  (∀ p ∈ ps, p.faulty = false) ∧ ps.flatMap Portion.chars = cs

private theorem split_printable : ∀ {fuel : Nat} {atHand behind : Bytes},
    (∀ b ∈ atHand, isPrintable b = true) → (∀ b ∈ behind, isPrintable b = true) →
      behind.length < fuel →
      Holds (Portion.split narrowFront fuel atHand behind) ((atHand ++ behind).map charOf) := by
  intro fuel
  induction fuel with
  | zero =>
    intro _ _ _ _ hf
    omega
  | succ fuel ih =>
    intro atHand behind ha hb hf
    rw [Portion.split, decode_printable ha]
    by_cases he : behind = []
    · subst he
      simp [Holds]
    · have hpos : 0 < behind.length := List.length_pos_iff.mpr he
      have hf' : (behind.drop Portion.size).length < fuel := by
        rw [List.length_drop]
        have : Portion.size = 512 := rfl
        omega
      obtain ⟨hclean, hchars⟩ := ih (fun b h => hb b (List.mem_of_mem_take h))
        (fun b h => hb b (List.mem_of_mem_drop h)) hf'
      rw [List.take_append_drop] at hchars
      simp only [Bool.false_eq_true, if_false, List.isEmpty_iff, he, List.length_nil, Nat.sub_zero,
        List.nil_append]
      refine ⟨?_, ?_⟩
      · exact List.forall_mem_cons.mpr ⟨rfl, hclean⟩
      · rw [List.flatMap_cons, hchars, List.map_append]

private theorem encoding_printable (h : ∀ b ∈ t, isPrintable b = true) :
    encoding t = (narrowFront, 0) := by
  unfold encoding
  split <;> simp_all [isPrintable]

/-- A printable text is read as its characters. -/
theorem holds_portions (h : ∀ b ∈ t, isPrintable b = true) : Holds (portions t) (t.map charOf) := by
  rw [portions, encoding_printable h]
  simp only [List.drop_zero]
  split
  · rw [decode_printable h]
    simp [Holds]
  · have hf : (t.drop Portion.size).length < t.length + 1 := by
      rw [List.length_drop]
      omega
    have ha : ∀ b ∈ t.take Portion.size, isPrintable b = true :=
      fun b hb => h b (List.mem_of_mem_take hb)
    have := split_printable ha (fun b hb => h b (List.mem_of_mem_drop hb)) hf
    rwa [List.take_append_drop] at this

end Bytes

namespace Cursor

/-- A cursor at a place on the first line, with some text before it. So many characters of that text
are known, or all of it. -/
structure Sees (i n : Nat) (cs : List Char) (c : Cursor) : Prop where
  clean : ∀ p ∈ c.behind, p.faulty = false
  text : c.ahead ++ c.behind.flatMap Portion.chars = cs
  known : c.behind = [] ∨ c.unread = c.ahead.length ∧ n ≤ c.ahead.length
  unmarked : c.atMark = false ∧ '\ufeff' ∉ cs
  bound : cs.length + 2 ≤ c.bound
  index : c.index = i
  line : c.line = 0
  column : c.column = i

theorem sees_ofBytes {t : Bytes} (h : ∀ b ∈ t, isPrintable b = true) :
    (ofBytes t).Sees 0 0 (t.map charOf) where
  clean := (holds_portions h).1
  text := (holds_portions h).2
  known := .inr ⟨rfl, le_rfl⟩
  unmarked := by
    refine ⟨rfl, ?_⟩
    rw [List.mem_map]
    rintro ⟨b, hb, hm⟩
    exact (charOf_printable (h b hb)).2.2.1 hm
  bound := by
    rw [List.length_map]
    exact le_rfl
  index := rfl
  line := rfl
  column := rfl

variable {c : Cursor} {i m n : Nat} {cs : List Char} {x : Char}

theorem Sees.mono (h : c.Sees i n cs) (hm : m ≤ n) : c.Sees i m cs :=
  { h with known := h.known.imp_right fun ⟨hu, hk⟩ => ⟨hu, hm.trans hk⟩ }

/-- As much as is known stands ahead. -/
theorem Sees.take_ahead (h : c.Sees i n cs) : c.ahead.take n = cs.take n := by
  rcases h.known with hb | ⟨_, hk⟩
  · rw [← h.text, hb, List.flatMap_nil, List.append_nil]
  · rw [← h.text, List.take_append_of_le_length hk]

theorem Sees.getElem?_ahead (h : c.Sees i n cs) (hm : m < n) :
    c.ahead[m]? = cs[m]? := by
  have := congrArg (·[m]?) h.take_ahead
  simpa [List.getElem?_take, hm] using this

theorem Sees.head?_eq (h : c.Sees i (n + 1) cs) : c.head? = cs.head? := by
  rw [head?, List.head?_eq_getElem?, List.head?_eq_getElem?]
  exact h.getElem?_ahead (Nat.succ_pos n)

theorem Sees.ahead_cons (h : c.Sees i (n + 1) (x :: cs)) : ∃ t, c.ahead = x :: t := by
  have := h.head?_eq
  rw [head?, List.head?_cons] at this
  exact List.head?_eq_some_iff.mp this

theorem Sees.ahead_nil (h : c.Sees i n []) : c.ahead = [] :=
  (List.append_eq_nil_iff.mp h.text).1

private theorem load_spec (n : Nat) : ∀ (ps : List Portion) (c : Cursor),
    (∀ p ∈ ps, p.faulty = false) → (ps = [] ∨ c.unread = c.ahead.length) →
    ∃ ahead unread behind,
      c.load n ps = some { c with ahead := ahead, unread := unread, behind := behind } ∧
      ahead ++ behind.flatMap Portion.chars = c.ahead ++ ps.flatMap Portion.chars ∧
      (∀ p ∈ behind, p.faulty = false) ∧
      (behind = [] ∨ unread = ahead.length ∧ n ≤ ahead.length) := by
  intro ps
  induction ps with
  | nil =>
    intro c _ _
    exact ⟨_, _, _, rfl, rfl, by simp, .inl rfl⟩
  | cons p ps ih =>
    intro c hclean hexact
    obtain ⟨hp, hps⟩ := List.forall_mem_cons.mp hclean
    have hexact : c.unread = c.ahead.length := hexact.resolve_left (by simp)
    rw [load, hp]
    simp only [Bool.false_eq_true, if_false, List.isEmpty_iff, List.flatMap_cons]
    by_cases he : ps = []
    · subst he
      exact ⟨_, _, _, if_pos rfl, by simp, by simp, .inl rfl⟩
    · rw [if_neg he]
      have hlength : c.unread + p.chars.length = (c.ahead ++ p.chars).length := by
        rw [List.length_append, hexact]
      split
      · next hn => exact ⟨_, _, _, rfl, by simp, hps, .inr ⟨hlength, hlength ▸ hn⟩⟩
      · obtain ⟨a, u, b, hl, ht, hb, hk⟩ := ih { c with
          ahead := c.ahead ++ p.chars, unread := c.unread + p.chars.length, behind := ps } hps
          (.inr hlength)
        refine ⟨a, u, b, hl, ?_, hb, hk⟩
        rw [ht, List.append_assoc]

/-- Any number of characters can be asked for. -/
theorem Sees.need (h : c.Sees i n cs) (m : Nat) :
    ∃ c', c.need m = some c' ∧ c'.Sees i m cs := by
  rw [Cursor.need]
  split
  · next hn =>
    refine ⟨c, rfl, { h with known := ?_ }⟩
    exact h.known.imp_right fun ⟨hu, _⟩ => ⟨hu, hu ▸ hn⟩
  · obtain ⟨a, u, b, hl, ht, hb, hk⟩ :=
      load_spec m c.behind c h.clean (h.known.imp_right And.left)
    rw [hl, Option.map_some]
    rw [h.text] at ht
    have hmark : a.head? ≠ some '\ufeff' := by
      intro hm
      refine h.unmarked.2 (ht ▸ ?_)
      exact List.mem_append_left _ (List.mem_of_head? hm)
    exact ⟨_, rfl, hb, ht, hk, ⟨by simpa using hmark, h.unmarked.2⟩, h.bound, h.index, h.line,
      h.column⟩

/-- A character that is known can be passed. -/
theorem Sees.advance (h : c.Sees i (n + 1) (x :: cs)) :
    (c.advance 1).Sees (i + 1) n cs := by
  obtain ⟨t, ht⟩ := h.ahead_cons
  have htext := h.text
  rw [ht, List.cons_append] at htext
  refine ⟨h.clean, ?_, ?_, ⟨h.unmarked.1, ?_⟩, ?_, ?_, h.line, ?_⟩
  · simpa [Cursor.advance, ht] using (List.cons.inj htext).2
  · refine h.known.imp_right fun ⟨hu, hk⟩ => ?_
    simp only [Cursor.advance, hu, ht, List.length_cons, List.drop_one, List.tail_cons] at hk ⊢
    omega
  · exact fun hm => h.unmarked.2 (List.mem_cons_of_mem x hm)
  · have := h.bound
    rw [List.length_cons] at this
    change cs.length + 2 ≤ c.bound
    omega
  · simp [Cursor.advance, h.index]
  · simp [Cursor.advance, h.column]

/-- Characters are passed as far as they are of the kind in question. -/
theorem Sees.passFrom {p : List Char → Bool} {run rest : List Char}
    (hrun : ∀ x ∈ run, ∀ t, p (x :: t) = true)
    (hrest : ∀ x ∈ rest.head?, ∀ t, p (x :: t) = false) :
    ∀ {i n fuel : Nat} {c : Cursor} (cs : List Char),
      c.Sees i (n + 1) (run ++ rest) → run.length < fuel →
      ∃ c', passFrom (m + 1) p fuel cs c = some (cs.reverse ++ run, c') ∧
        c'.Sees (i + run.length) 1 rest := by
  induction run with
  | nil =>
    intro i n fuel c cs h hf
    obtain ⟨fuel, rfl⟩ := Nat.exists_eq_add_one.mpr (Nat.zero_lt_of_lt hf)
    refine ⟨c, ?_, h.mono (Nat.succ_le_succ (Nat.zero_le _))⟩
    rw [Cursor.passFrom, List.append_nil]
    cases hr : rest with
    | nil =>
      rw [hr] at h
      rw [h.ahead_nil]
    | cons x rest =>
      rw [hr] at h
      obtain ⟨t, ht⟩ := h.ahead_cons
      rw [ht]
      simp [hrest x (by simp [hr]) t]
  | cons x run ih =>
    intro i n fuel c cs h hf
    obtain ⟨fuel, rfl⟩ := Nat.exists_eq_add_one.mpr (Nat.zero_lt_of_lt hf)
    obtain ⟨hx, hrun⟩ := List.forall_mem_cons.mp hrun
    obtain ⟨t, ht⟩ := h.ahead_cons
    obtain ⟨c', hc', hs'⟩ := h.advance.need (m + 1)
    obtain ⟨c'', hc'', hs''⟩ := ih hrun (x :: cs) hs' (by simpa using hf)
    refine ⟨c'', ?_, ?_⟩
    · rw [Cursor.passFrom, ht]
      simp only [hx t, if_true, hc', hc'']
      simp
    · rw [List.length_cons, Nat.add_comm run.length, ← Nat.add_assoc]
      exact hs''

/-- A class of characters is passed over. -/
theorem Sees.skip {p : Char → Bool} {run rest : List Char} (hrun : ∀ x ∈ run, p x = true)
    (hrest : ∀ x ∈ rest.head?, p x = false) (h : c.Sees i n (run ++ rest)) :
    ∃ c', c.skip p = some c' ∧ c'.Sees (i + run.length) 1 rest := by
  obtain ⟨c', hc', hs'⟩ := h.need 1
  have hf : run.length < c'.bound := by
    have := hs'.bound
    rw [List.length_append] at this
    omega
  obtain ⟨c'', hc'', hs''⟩ := Sees.passFrom (m := 0)
    (p := fun t => (t.head?.map p).getD false) (fun x hx t => by simp [hrun x hx])
    (fun x hx t => by simp [hrest x hx]) [] hs' hf
  refine ⟨c'', ?_, hs''⟩
  rw [Cursor.skip, Cursor.pass, hc']
  simp only [Option.bind_eq_bind, Option.bind_some]
  rw [hc'']
  rfl

/-- A cursor that has met the end of its text, on whichever line. -/
structure AtEnd (c : Cursor) : Prop where
  ahead : c.ahead = []
  behind : c.behind = []
  unmarked : c.atMark = false
  bound : 2 ≤ c.bound

theorem Sees.atEnd (h : c.Sees i (n + 1) []) : c.AtEnd where
  ahead := h.ahead_nil
  behind := by
    refine h.known.resolve_right fun ⟨_, hk⟩ => ?_
    rw [h.ahead_nil, List.length_nil] at hk
    omega
  unmarked := h.unmarked.1
  bound := h.bound

theorem AtEnd.need (h : c.AtEnd) (m : Nat) : ∃ c', c.need m = some c' ∧ c'.AtEnd := by
  rw [Cursor.need]
  split
  · exact ⟨c, rfl, h⟩
  · rw [h.behind, load, Option.map_some]
    exact ⟨_, rfl, h.ahead, rfl, by simp [h.ahead], h.bound⟩

theorem AtEnd.skip (h : c.AtEnd) (p : Char → Bool) : ∃ c', c.skip p = some c' ∧ c'.AtEnd := by
  obtain ⟨c', hc', he'⟩ := h.need 1
  refine ⟨c', ?_, he'⟩
  have hfuel : c'.bound = c'.bound - 1 + 1 := by
    have := he'.bound
    omega
  rw [Cursor.skip, Cursor.pass, hc']
  simp only [Option.bind_eq_bind, Option.bind_some]
  rw [hfuel, Cursor.passFrom, he'.ahead]
  rfl

end Cursor

end Yaml

end CallAssist
