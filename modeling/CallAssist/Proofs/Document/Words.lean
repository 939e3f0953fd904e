import CallAssist.Proofs.Call.Grammar
import CallAssist.Proofs.Document.Lines
import CallAssist.Proofs.Text.Words

/-! The word under a cursor. What ends at the cursor and what starts there make up the one word that
touches it, and the columns of its range lead back to where it starts and stops. -/

namespace CallAssist

namespace Document

/-- The word around an offset: what ends there and what starts there, taken together. -/
def wordAround (text : Bytes) (offset : Nat) : Bytes :=
  Bytes.trailingWord (text.take offset) ++ (text.drop offset).takeWhile Bytes.isWord

theorem isWord_of_mem_wordAround {text : Bytes} {offset : Nat} :
    ∀ b ∈ wordAround text offset, Bytes.isWord b = true := by
  intro b hb
  rcases List.mem_append.mp hb with hb | hb
  · exact List.mem_takeWhile_imp (List.mem_reverse.mp hb)
  · exact List.mem_takeWhile_imp hb

/-- The bounds of a word part the text into the word and two parts that do not go on with it. -/
theorem exists_wordBounds {text : Bytes} {offset : Nat} (h : offset ≤ text.length) :
    ∃ front rest, text = front ++ wordAround text offset ++ rest ∧
      wordBounds text offset = (front.length, (front ++ wordAround text offset).length) ∧
      (∀ b ∈ front.getLast?, Bytes.isWord b = false) ∧
      ∀ b ∈ rest.head?, Bytes.isWord b = false := by
  obtain ⟨front, hfront, _, hlast⟩ :=
    Bytes.endsInWord_iff.mpr (rfl : Bytes.trailingWord (text.take offset) = _)
  refine ⟨front, (text.drop offset).dropWhile Bytes.isWord, ?_, ?_, hlast, ?_⟩
  · calc
      text = text.take offset ++ text.drop offset := (List.take_append_drop offset text).symm
      _ = (front ++ Bytes.trailingWord (text.take offset)) ++
          ((text.drop offset).takeWhile Bytes.isWord ++
            (text.drop offset).dropWhile Bytes.isWord) := by
        rw [← hfront, List.takeWhile_append_dropWhile]
      _ = front ++ wordAround text offset ++ (text.drop offset).dropWhile Bytes.isWord := by
        simp only [wordAround, List.append_assoc]
  · have hoffset : offset = front.length + (Bytes.trailingWord (text.take offset)).length := by
      rw [← List.length_append, ← hfront, List.length_take_of_le h]
    rw [wordBounds, wordAround, List.length_append, List.length_append, Prod.mk.injEq]
    omega
  · intro b hb
    have hhead := List.head?_dropWhile_not Bytes.isWord (text.drop offset)
    rw [hb] at hhead
    exact hhead

theorem wordIn_word {text : Bytes} {offset : Nat} (h : offset ≤ text.length) (p : Position) :
    (wordIn text offset p).1 = wordAround text offset := by
  obtain ⟨front, rest, htext, hbounds, -⟩ := exists_wordBounds h
  unfold wordIn
  rw [hbounds]
  generalize wordAround text offset = word at *
  simp only
  split_ifs with hempty
  · rw [beq_iff_eq, List.length_append] at hempty
    exact (List.eq_nil_of_length_eq_zero (by omega)).symm
  · rw [htext, List.take_left, List.drop_left]

/-- The bounds that are computed are those of the one word around the offset. -/
theorem isWordAround_wordBounds {text : Bytes} {offset : Nat} (h : offset ≤ text.length) :
    Bytes.IsWordAround text offset (wordBounds text offset).1 (wordBounds text offset).2 := by
  have hstart : (wordBounds text offset).1 ≤ offset := Nat.sub_le _ _
  have hstop : offset ≤ (wordBounds text offset).2 := Nat.le_add_right _ _
  obtain ⟨front, rest, htext, hbounds, hfront, hrest⟩ := exists_wordBounds h
  rw [hbounds] at hstart hstop ⊢
  have haround := Bytes.isWordAround_of_parts isWord_of_mem_wordAround hfront hrest hstart hstop
  rwa [← htext] at haround

/-- A word that is there, with the columns at which it starts and stops. -/
theorem wordIn_of_lt {text : Bytes} {offset start stop : Nat}
    (hbounds : wordBounds text offset = (start, stop)) (hlt : start < stop) (p : Position) :
    wordIn text offset p = ((text.take stop).drop start,
      ⟨⟨p.line, (Bytes.columnOfOffset text start).toUInt32⟩,
        ⟨p.line, (Bytes.columnOfOffset text stop).toUInt32⟩⟩) := by
  have hne : (start == stop) = false := beq_false_of_ne (Nat.ne_of_lt hlt)
  simp only [wordIn, hbounds, hne, Bool.false_eq_true, if_false]

theorem wordIn_of_eq {text : Bytes} {offset start stop : Nat}
    (hbounds : wordBounds text offset = (start, stop)) (heq : start = stop) (p : Position) :
    wordIn text offset p = ([], ⟨p, p⟩) := by
  have hnone : (start == stop) = true := beq_iff_eq.mpr heq
  simp only [wordIn, hbounds, hnone, if_true]

private theorem toNat_column {text : Bytes} {offset : Nat} (h : Bytes.IsBoundary text offset)
    (hunits : Bytes.unitCount (Bytes.runes text) < UInt32.size) :
    (Bytes.columnOfOffset text offset).toUInt32.toNat = Bytes.columnOfOffset text offset :=
  UInt32.toNat_ofNat_of_lt' (h.columnOfOffset_le.trans_lt hunits)

/-- The word under a cursor is the one stretch of word bytes that touches it and cannot be longer,
with a range whose columns lead back to its bounds and are as far apart as it is long. Where no word
touches the cursor, it is empty. Nothing is taken from outside the text or the line. -/
theorem wordAt_exact (uri content : Bytes) (version : Int) (p : Position)
    (hunits : Bytes.unitCount (Bytes.runes ((make uri content version).lineAt p).1) < UInt32.size) :
    let d := make uri content version
    let text := (d.lineAt p).1
    let offset := (d.lineAt p).2
    d.LinesInBounds ∧ offset ≤ text.length ∧
      (Bytes.TouchesWord text offset → ∃ start stop,
        Bytes.IsWordAround text offset start stop ∧
        (∀ start' stop', Bytes.IsWordAround text offset start' stop' →
          start' = start ∧ stop' = stop) ∧
        ∃ first last : UInt32,
          d.wordAt p = ((text.take stop).drop start, ⟨⟨p.line, first⟩, ⟨p.line, last⟩⟩) ∧
          Bytes.offsetOfColumn text first.toNat = start ∧
          Bytes.offsetOfColumn text last.toNat = stop ∧
          last.toNat = first.toNat + ((text.take stop).drop start).length) ∧
      (¬ Bytes.TouchesWord text offset → d.wordAt p = ([], ⟨p, p⟩)) := by
  intro d text offset
  have hoffset : offset ≤ text.length := Bytes.offsetOfColumn_le _ _
  have haround := isWordAround_wordBounds hoffset
  have hword : d.wordAt p = wordIn text offset p := rfl
  refine ⟨linesInBounds_of_lineStarts rfl, hoffset, ?_⟩
  cases hbounds : wordBounds text offset with
  | mk start stop =>
    simp only [hbounds] at haround
    refine ⟨fun htouches => ?_, fun htouches => ?_⟩
    · have hlt := haround.start_lt_stop_iff.mpr htouches
      have hstart := haround.isBoundary_start hlt
      have hstop := haround.isBoundary_stop hlt
      refine ⟨start, stop, haround, fun start' stop' h' => haround.unique h', _, _,
        hword.trans (wordIn_of_lt hbounds hlt p), ?_, ?_, ?_⟩
      · rw [toNat_column hstart hunits, hstart.offsetOfColumn_columnOfOffset]
      · rw [toNat_column hstop hunits, hstop.offsetOfColumn_columnOfOffset]
      · rw [toNat_column hstart hunits, toNat_column hstop hunits, haround.columnOfOffset_stop,
          List.length_drop, List.length_take_of_le haround.stop_le]
    · have hnone := mt haround.start_lt_stop_iff.mp htouches
      have hle := haround.start_le.trans haround.le_stop
      exact hword.trans (wordIn_of_eq hbounds (by omega) p)

/-- The cursor at the end of a word on the second line, behind a character of two units and a stray
byte. -/
theorem wordAt_exact_behind_stray :
    let content := utf8 "x\r\n😀é" ++ 0xFF :: utf8 "beep_2(\r\n"
    let d := make [] content 1
    let text := utf8 "😀é" ++ 0xFF :: utf8 "beep_2("
    d.lineAt ⟨1, 10⟩ = (text, 13) ∧ Bytes.unitCount (Bytes.runes text) < UInt32.size ∧
      Bytes.TouchesWord text 13 ∧
      ∃ start stop, Bytes.IsWordAround text 13 start stop ∧
        ∃ first last : UInt32,
          d.wordAt ⟨1, 10⟩ = ((text.take stop).drop start, ⟨⟨1, first⟩, ⟨1, last⟩⟩) ∧
          Bytes.offsetOfColumn text first.toNat = start ∧
          Bytes.offsetOfColumn text last.toNat = stop := by
  intro content d text
  have hline : d.lineAt ⟨1, 10⟩ = (text, 13) := by decide +kernel
  have hunits : Bytes.unitCount (Bytes.runes text) < UInt32.size := by decide +kernel
  have htouches : Bytes.TouchesWord text 13 :=
    .inr ⟨12, 0x32, rfl, by decide +kernel, by decide +kernel⟩
  obtain ⟨-, -, hfound, -⟩ := wordAt_exact [] content 1 ⟨1, 10⟩ (by rw [hline]; exact hunits)
  rw [hline] at hfound
  obtain ⟨start, stop, haround, -, first, last, hword, hfirst, hlast, -⟩ := hfound htouches
  exact ⟨hline, hunits, htouches, start, stop, haround, first, last, hword, hfirst, hlast⟩

end Document

end CallAssist
