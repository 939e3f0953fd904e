import CallAssist.Proofs.Yaml.Cursor
import CallAssist.Yaml.ScalarText
import Mathlib.Data.List.TakeWhile

/-! Scalars on one line: a text in double quotes without escapes, and the word for nothing. -/

namespace CallAssist

namespace Yaml

def isQuotable (x : Char) : Bool :=
  !isBreak x && x != '\t' && x != '"' && x != '\\'

def Closes (cs : List Char) : Prop := ∀ x ∈ cs.head?, x = ',' ∨ x = ']' ∨ x = '\x7d'

namespace Cursor

variable {c : Cursor} {i n : Nat} {rest : List Char}

private theorem isBlank_quotable {x : Char} (h : isQuotable x = true) :
    isBlank x = (x == ' ') := by
  simp_all [isQuotable, isBlank]

private theorem Sees.quotedRun {word rest : List Char} {y : Char}
    (hword : ∀ x ∈ word, isQuotable x = true ∧ x ≠ ' ') (hy : y = ' ' ∨ y = '"') :
    ∀ {i n fuel : Nat} {c : Cursor} (text : List Char),
      c.Sees i (n + 1) (word ++ y :: rest) → word.length < fuel →
      ∃ c', quotedRun '"' fuel text c = some ⟨text.reverse ++ word, false, c'⟩ ∧
        c'.Sees (i + word.length) 1 (y :: rest) := by
  induction word with
  | nil =>
    intro i n fuel c text h hf
    obtain ⟨fuel, rfl⟩ := Nat.exists_eq_add_one.mpr (Nat.zero_lt_of_lt hf)
    obtain ⟨t, ht⟩ := h.ahead_cons
    refine ⟨c, ?_, h.mono (Nat.succ_le_succ (Nat.zero_le _))⟩
    rw [Yaml.quotedRun, ht, List.append_nil]
    rcases hy with rfl | rfl
    · rfl
    · rfl
  | cons x word ih =>
    intro i n fuel c text h hf
    obtain ⟨fuel, rfl⟩ := Nat.exists_eq_add_one.mpr (Nat.zero_lt_of_lt hf)
    obtain ⟨⟨hx, hs⟩, hword⟩ := List.forall_mem_cons.mp hword
    obtain ⟨t, ht⟩ := h.ahead_cons
    obtain ⟨c', hc', hs'⟩ := h.advance.need 2
    obtain ⟨c'', hc'', hs''⟩ := ih hword (x :: text) hs' (by simpa using hf)
    refine ⟨c'', ?_, ?_⟩
    · have hblank : isBlank x = false := by simp [isBlank_quotable hx, hs]
      simp only [isQuotable, Bool.and_eq_true, bne_iff_ne, Bool.not_eq_true'] at hx
      obtain ⟨⟨⟨hbreak, _⟩, hquote⟩, hslash⟩ := hx
      rw [Yaml.quotedRun, ht]
      simp [hblank, hbreak, hquote, hslash, hc', hc'']
    · rw [List.length_cons, Nat.add_comm word.length, ← Nat.add_assoc]
      exact hs''

private theorem Sees.readBlanks {rest : List Char} {y : Char} (hy : isBlank y = false)
    (hy' : isBreak y = false) (k : Nat) : ∀ {i n fuel : Nat} {c : Cursor} (blanks : List Char),
      c.Sees i (n + 1) (List.replicate k ' ' ++ y :: rest) → k < fuel →
      ∃ c', Gap.read 0 fuel ⟨false, blanks, [], []⟩ c =
          some (⟨false, blanks ++ List.replicate k ' ', [], []⟩, c') ∧
        c'.Sees (i + k) 1 (y :: rest) := by
  induction k with
  | zero =>
    intro i n fuel c blanks h hf
    obtain ⟨fuel, rfl⟩ := Nat.exists_eq_add_one.mpr (Nat.zero_lt_of_lt hf)
    have hhead : c.head? = some y := h.head?_eq
    refine ⟨c, ?_, h.mono (Nat.succ_le_succ (Nat.zero_le _))⟩
    rw [Gap.read]
    simp [isAtBlank, isAtBreak, hhead, hy, hy']
  | succ k ih =>
    intro i n fuel c blanks h hf
    obtain ⟨fuel, rfl⟩ := Nat.exists_eq_add_one.mpr (Nat.zero_lt_of_lt hf)
    rw [List.replicate_succ, List.cons_append] at h
    obtain ⟨t, ht⟩ := h.ahead_cons
    have hhead : c.head? = some ' ' := h.head?_eq
    obtain ⟨c', hc', hs'⟩ := h.advance.need 1
    obtain ⟨c'', hc'', hs''⟩ := ih (blanks ++ [' ']) hs' (Nat.lt_of_succ_lt_succ hf)
    refine ⟨c'', ?_, ?_⟩
    · have hblank : isBlank ' ' = true := rfl
      rw [Gap.read]
      simp only [isAtBlank, hhead, Option.map_some, Option.getD_some, hblank, if_true,
        Bool.false_and, Bool.false_eq_true, if_false, ht, List.take_succ_cons, List.take_zero, hc',
        hc'']
      simp [List.replicate_succ]
    · rw [Nat.add_comm k, ← Nat.add_assoc]
      exact hs''

private theorem Sees.readGap {body rest : List Char} {k : Nat}
    (hbody : ∀ x ∈ body, isQuotable x = true) (hhead : body.head? ≠ some ' ')
    (h : c.Sees i (n + 1) (List.replicate k ' ' ++ (body ++ '"' :: rest))) :
    ∃ c', Gap.read 0 c.bound .none c = some (⟨false, List.replicate k ' ', [], []⟩, c') ∧
      c'.Sees (i + k) 1 (body ++ '"' :: rest) := by
  have hbound := h.bound
  simp only [List.length_append, List.length_replicate, List.length_cons] at hbound
  cases body with
  | nil => exact h.readBlanks rfl rfl k [] (by omega)
  | cons y body =>
    have hy : isQuotable y = true := hbody y List.mem_cons_self
    have hblank : isBlank y = false := by
      simpa [isBlank_quotable hy] using hhead
    have hbreak : isBreak y = false := by
      simp only [isQuotable, Bool.and_eq_true, Bool.not_eq_true'] at hy
      exact hy.1.1.1
    exact h.readBlanks hblank hbreak k [] (by omega)

private theorem exists_word (body : List Char) :
    ∃ word tail, body = word ++ tail ∧ ' ' ∉ word ∧ (tail = [] ∨ ∃ k rest,
      tail = List.replicate (k + 1) ' ' ++ rest ∧ rest.head? ≠ some ' ') := by
  refine ⟨body.takeWhile (· != ' '), body.dropWhile (· != ' '),
    List.takeWhile_append_dropWhile.symm, ?_, ?_⟩
  · intro h
    simpa using List.mem_takeWhile_imp h
  · cases ht : body.dropWhile (· != ' ') with
    | nil => exact .inl rfl
    | cons x tail =>
      have hx : x = ' ' := by
        have := List.head?_dropWhile_not (· != ' ') body
        rw [ht] at this
        simpa using this
      refine .inr ⟨(tail.takeWhile (· == ' ')).length, tail.dropWhile (· == ' '), ?_, ?_⟩
      · have hrun : tail.takeWhile (· == ' ') =
            List.replicate (tail.takeWhile (· == ' ')).length ' ' := by
          refine List.eq_replicate_iff.mpr ⟨rfl, fun y hy => ?_⟩
          simpa using List.mem_takeWhile_imp hy
        rw [List.replicate_succ, List.cons_append, ← hrun, List.takeWhile_append_dropWhile, hx]
      · intro h
        have := List.head?_dropWhile_not (· == ' ') tail
        rw [h] at this
        simp at this

private theorem Sees.quotedFrom (fuel : Nat) : ∀ {i n : Nat} {c : Cursor} {body : List Char}
    (text : List Char), 0 < i → (∀ x ∈ body, isQuotable x = true) →
      c.Sees i n (body ++ '"' :: rest) → body.length < fuel →
      ∃ c', quotedFrom '"' fuel text c = some ⟨text.reverse ++ body, false, c'⟩ ∧
        c'.Sees (i + body.length + 1) 0 rest := by
  induction fuel with
  | zero =>
    intro _ _ _ _ _ _ _ _ hf
    omega
  | succ fuel ih =>
    intro i n c body text hi hbody h hf
    obtain ⟨c₁, hc₁, hs₁⟩ := h.need 4
    have hmark : c₁.isAtMarkLine = false := by
      have : c₁.column ≠ 0 := by rw [hs₁.column]; omega
      simp [isAtMarkLine, this]
    have hahead : c₁.ahead ≠ [] := by
      intro he
      have := hs₁.getElem?_ahead (m := 0) (by omega)
      rw [he] at this
      cases body with
      | nil => simp at this
      | cons x body => simp at this
    obtain ⟨word, tail, rfl, hword, htail⟩ := exists_word body
    have hword' : ∀ x ∈ word, isQuotable x = true ∧ x ≠ ' ' := fun x hx =>
      ⟨hbody x (List.mem_append_left _ hx), fun he => hword (he ▸ hx)⟩
    have hbound := hs₁.bound
    simp only [List.length_append, List.length_cons] at hbound hf
    rw [Yaml.quotedFrom]
    simp only [hc₁, Option.bind_eq_bind, Option.bind_some, hmark, Bool.false_or,
      List.isEmpty_iff, hahead, if_false]
    rcases htail with rfl | ⟨k, rest', rfl, hrest'⟩
    · rw [List.append_nil] at hs₁
      obtain ⟨c₂, hc₂, hs₂⟩ := hs₁.quotedRun hword' (.inr rfl) []
        (show word.length < c₁.bound by omega)
      obtain ⟨c₃, hc₃, hs₃⟩ := hs₂.need 1
      have hhead : c₃.head? = some '"' := hs₃.head?_eq
      refine ⟨c₃.advance 1, ?_, ?_⟩
      · simp [hc₂, hc₃, hhead, addChars]
      · simpa using hs₃.advance
    · have hlength : (List.replicate (k + 1) ' ' ++ rest').length = k + 1 + rest'.length := by
        simp
      rw [hlength] at hbound hf
      rw [List.append_assoc, List.append_assoc, List.replicate_succ, List.cons_append] at hs₁
      obtain ⟨c₂, hc₂, hs₂⟩ := hs₁.quotedRun hword' (.inl rfl) []
        (show word.length < c₁.bound by omega)
      obtain ⟨c₃, hc₃, hs₃⟩ := hs₂.need 1
      have hhead : c₃.head? = some ' ' := hs₃.head?_eq
      rw [← List.cons_append, ← List.replicate_succ] at hs₃
      have hbody' : ∀ x ∈ rest', isQuotable x = true := fun x hx =>
        hbody x (List.mem_append_right _ (List.mem_append_right _ hx))
      obtain ⟨c₄, hc₄, hs₄⟩ := hs₃.readGap hbody' hrest'
      obtain ⟨c₅, hc₅, hs₅⟩ := ih (addChars text (word ++ List.replicate (k + 1) ' '))
        (Nat.add_pos_right _ (Nat.succ_pos k)) hbody' hs₄ (by omega)
      refine ⟨c₅, ?_, ?_⟩
      · simp only [hc₂, Option.bind_some, hc₃, hhead]
        simp only [Gap.none] at hc₄ ⊢
        simp only [hc₄, Option.bind_some]
        simpa [Gap.folded, addChars] using hc₅
      · have : i + (word ++ (List.replicate (k + 1) ' ' ++ rest')).length + 1 =
            i + word.length + (k + 1) + rest'.length + 1 := by
          rw [List.length_append, hlength]
          omega
        rw [this]
        exact hs₅

/-- A text in double quotes without escapes is read as it stands. -/
theorem Sees.quotedScalar {body : List Char} (hbody : ∀ x ∈ body, isQuotable x = true)
    (h : c.Sees i (n + 1) ('"' :: (body ++ '"' :: rest))) :
    ∃ c', quotedScalar '"' c = some ⟨body, false, c'⟩ ∧
      c'.Sees (i + body.length + 2) 0 rest := by
  have hbound : body.length < c.bound := by
    have := h.bound
    simp only [List.length_cons, List.length_append] at this
    omega
  obtain ⟨c', hc', hs'⟩ := h.advance.quotedFrom c.bound [] (Nat.succ_pos i) hbody hbound
  refine ⟨c', hc', ?_⟩
  have : i + 1 + body.length + 1 = i + body.length + 2 := by omega
  rwa [← this]

theorem startsMark_of_ne {x mark : Char} (h : x ≠ mark) (t : List Char) :
    startsMark mark (x :: t) = false := by
  unfold startsMark
  split
  · next he =>
    obtain ⟨rfl, _⟩ := List.cons.inj he
    simp [h]
  · rfl

/-- The word for nothing is a plain scalar of its own in front of what ends a value. -/
theorem Sees.plain_null (margin : Nat) (hrest : Closes rest)
    (h : c.Sees i n (['n', 'u', 'l', 'l'] ++ rest)) :
    ∃ c', plain true margin c = some ⟨['n', 'u', 'l', 'l'], false, c'⟩ ∧
      c'.Sees (i + 4) 1 rest := by
  obtain ⟨c₁, hc₁, hs₁⟩ := h.need 4
  obtain ⟨t, ht⟩ := hs₁.ahead_cons
  have hmark : c₁.isAtMarkLine = false := by
    rw [isAtMarkLine, ht, startsMark_of_ne (by decide), startsMark_of_ne (by decide)]
    simp
  have hhead : c₁.head? = some 'n' := hs₁.head?_eq
  have hbound : 4 < c₁.bound := by
    have := hs₁.bound
    simp only [List.length_append, List.length_cons] at this
    omega
  have hword : ∀ x ∈ ['n', 'u', 'l', 'l'], ∀ t, continuesPlain true (x :: t) = true := by
    intro x hx t
    simp only [List.mem_cons, List.not_mem_nil, or_false] at hx
    rcases hx with rfl | rfl | rfl | rfl
    all_goals rfl
  have hend : ∀ x ∈ rest.head?, ∀ t, continuesPlain true (x :: t) = false := by
    intro x hx t
    rcases hrest x hx with rfl | rfl | rfl
    all_goals rfl
  obtain ⟨c₂, hc₂, hs₂⟩ := Sees.passFrom (m := 1) hword hend [] hs₁ hbound
  have hstop : c₂.isAtBlank = false ∧ c₂.isAtBreak = false := by
    rw [isAtBlank, isAtBreak, hs₂.head?_eq]
    cases hr : rest.head? with
    | none => exact ⟨rfl, rfl⟩
    | some x =>
      rcases hrest x hr with rfl | rfl | rfl
      all_goals exact ⟨rfl, rfl⟩
  refine ⟨c₂, ?_, hs₂⟩
  have hfuel : c.bound = c.bound - 1 + 1 := by
    have := h.bound
    omega
  rw [plain, hfuel, plainFrom]
  simp only [hc₁, Option.bind_eq_bind, Option.bind_some, hmark, hhead]
  simp [hc₂, hstop, addChars, Gap.folded, Gap.none]

end Cursor

end Yaml

end CallAssist
