import CallAssist.Document.Store
import CallAssist.Proofs.Text.Columns
import CallAssist.Proofs.Text.Cuts
import Mathlib.Data.List.Infix
import Mathlib.Tactic.Common

/-! The lines of a document are the pieces of its text between line feeds. -/

namespace CallAssist

namespace Bytes

/-- The pieces of a text are those of the list it is. -/
theorem split_eq_splitOn (sep : UInt8) (t : Bytes) : split sep t = t.splitOn sep := by
  induction t with
  | nil => rfl
  | cons b t ih =>
    rw [split, List.splitOn_cons_eq_if_modifyHead, ih]
    by_cases h : b = sep
    · rw [if_pos h, if_pos (beq_iff_eq.mpr h)]
    · rw [if_neg h, if_neg (mt beq_iff_eq.mp h)]
      cases ht : t.splitOn sep with
      | nil => exact absurd ht (List.splitOn_ne_nil sep t)
      | cons p ps => rfl

theorem split_ne_nil (sep : UInt8) (t : Bytes) : split sep t ≠ [] := by
  rw [split_eq_splitOn]
  exact List.splitOn_ne_nil sep t

theorem split_cons_sep (sep : UInt8) (t : Bytes) : split sep (sep :: t) = [] :: split sep t := by
  rw [split, if_pos rfl]

theorem split_cons_of_ne {sep b : UInt8} (h : b ≠ sep) (t : Bytes) :
    ∃ p ps, split sep t = p :: ps ∧ split sep (b :: t) = (b :: p) :: ps := by
  cases hs : split sep t with
  | nil => exact absurd hs (split_ne_nil sep t)
  | cons p ps => exact ⟨p, ps, rfl, by rw [split, if_neg h, hs]⟩

theorem join_cons {sep : Bytes} (p : Bytes) {ps : List Bytes} (h : ps ≠ []) :
    join sep (p :: ps) = p ++ sep ++ join sep ps := by
  cases ps with
  | nil => exact absurd rfl h
  | cons q qs => rfl

/-- The pieces joined again are the text. -/
theorem join_split (sep : UInt8) (t : Bytes) : join [sep] (split sep t) = t := by
  rw [join_eq_intercalate, split_eq_splitOn, List.intercalate_splitOn]

end Bytes

/-- The offsets at which pieces start when one byte stands between any two. -/
def pieceStarts : Nat → List Bytes → List Nat
  | _, [] => []
  | i, p :: ps => i :: pieceStarts (i + p.length + 1) ps

private theorem lineStartsFrom_eq (i : Nat) (t : Bytes) :
    i :: lineStartsFrom i t = pieceStarts i (Bytes.split 0x0A t) := by
  induction t generalizing i with
  | nil => rfl
  | cons b t ih =>
    by_cases h : b = 0x0A
    · rw [h, Bytes.split_cons_sep, pieceStarts, lineStartsFrom]
      simpa using ih (i + 1)
    · obtain ⟨p, ps, hs, hb⟩ := Bytes.split_cons_of_ne h t
      have := ih (i + 1)
      rw [hs, pieceStarts, List.cons.injEq] at this
      rw [hb, pieceStarts, lineStartsFrom, if_neg (by simpa using h), this.2, List.length_cons]
      congr 2
      omega

theorem lineStarts_eq (t : Bytes) : lineStarts t = pieceStarts 0 (Bytes.split 0x0A t) :=
  lineStartsFrom_eq 0 t

/-- Where the `n`-th piece of a joined text lies: it starts at the `n`-th offset, and the next offset
is one byte behind its end, or it ends the text. -/
def PieceAt (text : Bytes) (starts : List Nat) (n : Nat) (p : Bytes) : Prop :=
  ∃ before after, text = before ++ p ++ after ∧ starts[n]? = some before.length ∧
    (starts[n + 1]? = some (before.length + p.length + 1) ∨ starts[n + 1]? = none ∧ after = [])

private theorem pieceAt_join (sep : UInt8) (front : Bytes) (ps : List Bytes) (n : Nat) (p : Bytes)
    (h : ps[n]? = some p) :
    PieceAt (front ++ Bytes.join [sep] ps) (pieceStarts front.length ps) n p := by
  induction ps generalizing front n with
  | nil => simp at h
  | cons q qs ih =>
    cases n with
    | zero =>
      obtain rfl : q = p := by simpa using h
      cases qs with
      | nil => exact ⟨front, [], by simp [Bytes.join], rfl, .inr ⟨rfl, rfl⟩⟩
      | cons r rs =>
        refine ⟨front, sep :: Bytes.join [sep] (r :: rs), ?_, rfl, .inl rfl⟩
        simp [Bytes.join_cons q (List.cons_ne_nil r rs)]
    | succ n =>
      have hq : qs[n]? = some p := by simpa using h
      have hne : qs ≠ [] := by rintro rfl; simp at hq
      have := ih (front ++ q ++ [sep]) n hq
      rw [Bytes.join_cons q hne, pieceStarts]
      simp only [List.length_append, List.length_singleton, List.append_assoc] at this ⊢
      exact this

/-- The `n`-th line start and the `n`-th piece of a text belong together. -/
theorem pieceAt_lineStarts {t p : Bytes} {n : Nat} (h : (Bytes.split 0x0A t)[n]? = some p) :
    PieceAt t (lineStarts t) n p := by
  have := pieceAt_join 0x0A [] (Bytes.split 0x0A t) n p h
  rwa [List.nil_append, Bytes.join_split, List.length_nil, ← lineStarts_eq] at this

theorem length_lineStarts (t : Bytes) : (lineStarts t).length = (Bytes.split 0x0A t).length := by
  have (i : Nat) (ps : List Bytes) : (pieceStarts i ps).length = ps.length := by
    induction ps generalizing i with
    | nil => rfl
    | cons p ps ih => rw [pieceStarts, List.length_cons, List.length_cons, ih]
  rw [lineStarts_eq, this]

theorem getElem?_lineStarts_eq_none {t : Bytes} {n : Nat} (h : (Bytes.split 0x0A t)[n]? = none) :
    (lineStarts t)[n]? = none := by
  rw [List.getElem?_eq_none_iff, length_lineStarts]
  exact List.getElem?_eq_none_iff.mp h

namespace Document

/-- Line starts that lie in the text, one behind the other. -/
def LinesInBounds (d : Document) : Prop :=
  ∀ row start, d.lines[row]? = some start → start ≤ d.content.length ∧
    ∀ next, d.lines[row + 1]? = some next → start < next ∧ next ≤ d.content.length

/-- At each line start there is a piece. -/
theorem exists_pieceAt {d : Document} (h : d.lines = lineStarts d.content) {row start : Nat}
    (hs : d.lines[row]? = some start) : ∃ p, PieceAt d.content d.lines row p := by
  obtain ⟨hlt, -⟩ := List.getElem?_eq_some_iff.mp hs
  rw [h, length_lineStarts] at hlt
  have hp := List.getElem?_eq_getElem hlt
  exact ⟨_, h ▸ pieceAt_lineStarts hp⟩

theorem linesInBounds_of_lineStarts {d : Document} (h : d.lines = lineStarts d.content) :
    d.LinesInBounds := by
  intro row start hs
  obtain ⟨p, before, after, ht, hb, hnext⟩ := exists_pieceAt h hs
  obtain rfl : before.length = start := Option.some.inj (hb.symm.trans hs)
  refine ⟨by rw [ht]; simp, fun next hn => ?_⟩
  have hlt : before.length < next := by
    rcases hnext with hnext | ⟨hnext, _⟩
    · rw [hn] at hnext
      have := Option.some.inj hnext
      omega
    · rw [hn] at hnext
      cases hnext
  obtain ⟨q, before', after', ht', hb', _⟩ := exists_pieceAt h hn
  obtain rfl : before'.length = next := Option.some.inj (hb'.symm.trans hn)
  exact ⟨hlt, by rw [ht']; simp⟩

/-- Where a line stops: before the line feed in front of the next one, or at the end of the text. -/
def lineStop (d : Document) (row : Nat) : Nat :=
  match d.lines[row + 1]? with
  | some next => next - 1
  | none => d.content.length

private theorem line_eq (d : Document) (row : Nat) :
    d.line row = match d.lines[row]? with
      | none => []
      | some start => dropReturn ((d.content.take (d.lineStop row)).drop start) :=
  if_neg (Int.not_lt.mpr (Int.natCast_nonneg row))

theorem line_of_start {d : Document} {row start : Nat} (h : d.lines[row]? = some start) :
    d.line row = dropReturn ((d.content.take (d.lineStop row)).drop start) := by
  simp only [line_eq, h]

theorem line_of_none {d : Document} {row : Nat} (h : d.lines[row]? = none) : d.line row = [] := by
  simp only [line_eq, h]

/-- The place of a piece is from a line start to where that line stops. -/
theorem exists_start_of_pieceAt {d : Document} {row : Nat} {p : Bytes}
    (h : PieceAt d.content d.lines row p) :
    ∃ start, d.lines[row]? = some start ∧ start ≤ d.lineStop row ∧
      d.lineStop row ≤ d.content.length ∧ (d.content.take (d.lineStop row)).drop start = p := by
  obtain ⟨before, after, ht, hs, hn⟩ := h
  have hstop : d.lineStop row = (before ++ p).length := by
    rw [lineStop]
    rcases hn with hn | ⟨hn, rfl⟩
    · simp only [hn, List.length_append, Nat.add_sub_cancel]
    · simp only [hn, ht, List.append_nil]
  refine ⟨before.length, hs, ?_, ?_, ?_⟩
  · rw [hstop, List.length_append]
    exact Nat.le_add_right _ _
  · rw [hstop, ht]
    exact (List.prefix_append (before ++ p) after).length_le
  · rw [hstop, ht, List.take_left, List.drop_left]

end Document

/-- A line of a document is a piece of its text without a carriage return at its end; where there is
no such piece it is empty. -/
theorem Document.line_make (uri content : Bytes) (version : Int) (row : Nat) :
    (Document.make uri content version).line row =
      dropReturn (((Bytes.split 0x0A content)[row]?).getD []) := by
  cases hp : (Bytes.split 0x0A content)[row]? with
  | none => exact line_of_none (d := make uri content version) (getElem?_lineStarts_eq_none hp)
  | some p =>
    obtain ⟨start, hs, -, -, hpiece⟩ :=
      exists_start_of_pieceAt (d := make uri content version) (pieceAt_lineStarts hp)
    rw [line_of_start hs, hpiece, Option.getD_some]

theorem Bytes.split_of_not_mem {sep : UInt8} {t : Bytes} (h : sep ∉ t) : split sep t = [t] := by
  rw [split_eq_splitOn, List.splitOn_eq_singleton h]

theorem Bytes.split_append_sep {sep : UInt8} {t : Bytes} (h : sep ∉ t) (rest : Bytes) :
    split sep (t ++ sep :: rest) = t :: split sep rest := by
  rw [split_eq_splitOn, split_eq_splitOn, List.splitOn_append_cons_self_of_not_mem h]

theorem dropReturn_of_last {t : Bytes} (h : t.getLast? ≠ some 0x0D) : dropReturn t = t := by
  refine if_neg fun hend => h ?_
  rw [Bytes.endsWith, List.isPrefixOf_iff_prefix] at hend
  obtain ⟨front, hfront⟩ := hend
  rw [← List.head?_reverse, ← hfront]
  rfl

/-- A document that is one line: neither its end nor a line feed has to be taken off. -/
theorem Document.line_make_single {t : Bytes} (hfeed : 0x0A ∉ t) (hreturn : t.getLast? ≠ some 0x0D)
    (uri : Bytes) (version : Int) : (Document.make uri t version).line (0 : Nat) = t := by
  rw [line_make, Bytes.split_of_not_mem hfeed]
  exact dropReturn_of_last hreturn

/-- A boundary of such a document is where its column leads. -/
theorem Document.lineAt_make_single {t : Bytes} (hfeed : 0x0A ∉ t)
    (hreturn : t.getLast? ≠ some 0x0D) {offset : Nat} (h : Bytes.IsBoundary t offset)
    {column : UInt32} (hcolumn : column.toNat = Bytes.columnOfOffset t offset) (uri : Bytes)
    (version : Int) : (Document.make uri t version).lineAt ⟨0, column⟩ = (t, offset) := by
  have hline : (Document.make uri t version).line ((0 : UInt32).toNat : Int) = t :=
    line_make_single hfeed hreturn uri version
  simp only [lineAt, hline, hcolumn, h.offsetOfColumn_columnOfOffset]

end CallAssist
