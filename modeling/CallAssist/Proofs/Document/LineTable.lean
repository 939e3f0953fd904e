import CallAssist.Proofs.Document.Lines

/-! The line table of a document. Its starts are the beginning of the text and the places right behind
the line feeds, in order; what lies between them are the pieces of the text, from which each line is
taken without the carriage return at its end. -/

namespace CallAssist

/-- A start stands right behind a line feed, and there is one behind each. -/
theorem mem_lineStartsFrom {i start : Nat} {t : Bytes} :
    start ∈ lineStartsFrom i t ↔ ∃ j, t[j]? = some 0x0A ∧ start = i + j + 1 := by
  induction t generalizing i with
  | nil => simp [lineStartsFrom]
  | cons b t ih =>
    have hrest : start ∈ lineStartsFrom (i + 1) t ↔
        ∃ j, t[j]? = some 0x0A ∧ start = i + (j + 1) + 1 := by
      rw [ih]
      simp only [Nat.add_assoc, Nat.add_comm 1]
    rw [lineStartsFrom, ← Nat.or_exists_add_one]
    by_cases h : b = 0x0A
    · simp [h, hrest]
    · simp [h, hrest]

theorem lt_of_mem_lineStartsFrom {i start : Nat} {t : Bytes} (h : start ∈ lineStartsFrom i t) :
    i < start := by
  obtain ⟨j, -, rfl⟩ := mem_lineStartsFrom.mp h
  omega

theorem pairwise_lineStartsFrom (i : Nat) (t : Bytes) : (lineStartsFrom i t).Pairwise (· < ·) := by
  induction t generalizing i with
  | nil => exact .nil
  | cons b t ih =>
    rw [lineStartsFrom]
    split
    · exact .cons (fun _ hstart => lt_of_mem_lineStartsFrom hstart) (ih (i + 1))
    · exact ih (i + 1)

theorem length_lineStartsFrom (i : Nat) (t : Bytes) :
    (lineStartsFrom i t).length = t.count 0x0A := by
  induction t generalizing i with
  | nil => rfl
  | cons b t ih =>
    rw [lineStartsFrom, List.count_cons]
    split
    · rw [List.length_cons, ih]
    · rw [ih, Nat.add_zero]

theorem le_length_of_mem_lineStarts {start : Nat} {t : Bytes} (h : start ∈ lineStarts t) :
    start ≤ t.length := by
  rcases List.mem_cons.mp h with rfl | h
  · exact Nat.zero_le _
  · obtain ⟨j, hj, rfl⟩ := mem_lineStartsFrom.mp h
    obtain ⟨hlt, -⟩ := List.getElem?_eq_some_iff.mp hj
    omega

/-- A piece of a text and the line it holds: the piece itself, or the piece without the one carriage
return at its end. -/
inductive HoldsLine : Bytes → Bytes → Prop
  | whole {line : Bytes} (h : line.getLast? ≠ some 0x0D) : HoldsLine line line
  | returned (line : Bytes) : HoldsLine (line ++ [0x0D]) line

theorem holdsLine_dropReturn (piece : Bytes) : HoldsLine piece (dropReturn piece) := by
  by_cases h : piece.getLast? = some 0x0D
  · obtain ⟨line, rfl⟩ := List.getLast?_eq_some_iff.mp h
    have hend : Bytes.endsWith [0x0D] (line ++ [0x0D]) = true := by simp [Bytes.endsWith]
    rw [dropReturn, if_pos hend, List.dropLast_concat]
    exact .returned line
  · rw [dropReturn_of_last h]
    exact .whole h

namespace Document

/-- The stretches of the text from each line start to where that line stops. -/
def stretches (d : Document) : List Bytes :=
  d.lines.mapIdx fun row start => (d.content.take (d.lineStop row)).drop start

theorem stretches_make (uri content : Bytes) (version : Int) :
    (make uri content version).stretches = content.splitOn 0x0A := by
  rw [← Bytes.split_eq_splitOn]
  apply List.ext_getElem?
  intro row
  rw [stretches, List.getElem?_mapIdx]
  cases hp : (Bytes.split 0x0A content)[row]? with
  | none => exact Option.map_eq_none_iff.mpr (getElem?_lineStarts_eq_none hp)
  | some p =>
    obtain ⟨start, hs, -, -, hpiece⟩ :=
      exists_start_of_pieceAt (d := make uri content version) (pieceAt_lineStarts hp)
    rw [hs, Option.map_some, hpiece]

/-- The line table of a document is exact. The starts begin with the start of the text, grow, and are
one more than the line feeds; the others stand right behind the line feeds, and none lies behind the
text. A line is cut out of the text at places that lie in it, it is the piece of its number without a
carriage return at its end, and it is empty where there is no such piece. The stretches between the
starts are the pieces, and joined they give back the text. -/
theorem lineTable_exact (uri content : Bytes) (version : Int) :
    let d := make uri content version
    let pieces := content.splitOn 0x0A
    (d.lines.head? = some 0 ∧ d.lines.Pairwise (· < ·) ∧
      d.lines.length = content.count 0x0A + 1 ∧
      (∀ start, start ∈ d.lines.tail ↔ ∃ i, content[i]? = some 0x0A ∧ start = i + 1) ∧
      ∀ start ∈ d.lines, start ≤ content.length) ∧
    (∀ row start, d.lines[row]? = some start →
      start ≤ d.lineStop row ∧ d.lineStop row ≤ content.length ∧
        HoldsLine ((content.take (d.lineStop row)).drop start) (d.line row)) ∧
    (∀ (row : Nat) piece, pieces[row]? = some piece → HoldsLine piece (d.line row)) ∧
    (∀ row : Int, row < 0 ∨ pieces.length ≤ row → d.line row = []) ∧
    d.stretches = pieces ∧ [0x0A].intercalate d.stretches = content := by
  intro d pieces
  refine ⟨⟨rfl, ?_, ?_, ?_, ?_⟩, ?_, ?_, ?_, stretches_make uri content version, ?_⟩
  · exact .cons (fun _ h => lt_of_mem_lineStartsFrom h) (pairwise_lineStartsFrom 0 content)
  · exact congrArg (· + 1) (length_lineStartsFrom 0 content)
  · intro start
    have hmem : start ∈ lineStartsFrom 0 content ↔ _ := mem_lineStartsFrom
    simp only [Nat.zero_add] at hmem
    exact hmem
  · intro start hstart
    exact le_length_of_mem_lineStarts hstart
  · intro row start hs
    obtain ⟨p, hp⟩ := exists_pieceAt (d := d) rfl hs
    obtain ⟨start', hs', hstart, hstop, -⟩ := exists_start_of_pieceAt hp
    obtain rfl : start' = start := Option.some.inj (hs'.symm.trans hs)
    rw [line_of_start hs]
    exact ⟨hstart, hstop, holdsLine_dropReturn _⟩
  · intro row piece hpiece
    rw [line_make, Bytes.split_eq_splitOn, hpiece]
    exact holdsLine_dropReturn piece
  · intro row hrow
    by_cases hneg : row < 0
    · exact if_pos hneg
    · obtain ⟨n, rfl⟩ := Int.eq_ofNat_of_zero_le (Int.not_lt.mp hneg)
      have hnone : pieces[n]? = none := List.getElem?_eq_none_iff.mpr (by omega)
      rw [line_make, Bytes.split_eq_splitOn, hnone]
      rfl
  · rw [stretches_make, List.intercalate_splitOn]

/-- A piece of two carriage returns, of which the line keeps one, and a row behind the last line. -/
theorem lineTable_exact_two_returns :
    let content := utf8 "a\n\r\r\n"
    let d := make [] content 1
    d.lines[1]? = some 2 ∧ (content.splitOn 0x0A)[1]? = some [0x0D, 0x0D] ∧
      (content.splitOn 0x0A).length ≤ 3 ∧ d.lineStop 1 ≤ content.length ∧
      HoldsLine [0x0D, 0x0D] (d.line 1) ∧ d.line 3 = [] := by
  intro content d
  have hstart : d.lines[1]? = some 2 := by decide +kernel
  have hpiece : (content.splitOn 0x0A)[1]? = some [0x0D, 0x0D] := by decide +kernel
  have hlength : (content.splitOn 0x0A).length ≤ 3 := by decide +kernel
  obtain ⟨-, hbounds, hlines, hnone, -⟩ := lineTable_exact [] content 1
  exact ⟨hstart, hpiece, hlength, (hbounds 1 2 hstart).2.1, hlines 1 _ hpiece,
    hnone 3 (.inr (Int.ofNat_le.mpr hlength))⟩

end Document

end CallAssist
