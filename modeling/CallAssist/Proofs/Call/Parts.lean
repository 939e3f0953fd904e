import CallAssist.Proofs.Call.Grammar

/-! A text that breaks off in a call, taken apart byte by byte: what comes before the name, the
name, the white space behind it, and the arguments. This can be done in one way only, and it gives
the call that is found. -/

namespace CallAssist

namespace Bytes

/-- A text of white-space characters only. -/
def IsBlankText (w : Bytes) : Prop :=
  ∃ cs : List Char, w = ofChars cs ∧ ∀ c ∈ cs, isBlankChar c = true

/-- The longest text of white space that ends another text. -/
structure IsBlankEnd (t w : Bytes) : Prop where
  suffix : w <:+ t
  blank : IsBlankText w
  longest : ∀ v, v <:+ t → IsBlankText v → v.length ≤ w.length

/-- The white space that trimming takes from the end of a text. -/
def blankEnd (t : Bytes) : Bytes := ofRunes ((runes t).rtakeWhile Rune.isBlank)

@[simp] theorem trimEnd_append_blankEnd (t : Bytes) : trimEnd t ++ blankEnd t = t := by
  change ofRunes ((runes t).rdropWhile Rune.isBlank) ++ _ = t
  rw [blankEnd, ← ofRunes_append, List.rdropWhile_append_rtakeWhile, ofRunes_runes]

private theorem rtakeWhile_append {α : Type} {p : α → Bool} {back : List α}
    (h : ∀ a ∈ back, p a = true) (front : List α) :
    (front ++ back).rtakeWhile p = front.rtakeWhile p ++ back := by
  rw [List.rtakeWhile, List.reverse_append, List.takeWhile_append_of_pos (by simpa using h),
    List.reverse_append, List.reverse_reverse, List.rtakeWhile]

private theorem ofRunes_map_point (cs : List Char) : ofRunes (cs.map .point) = ofChars cs := by
  rw [ofRunes, List.flatMap_map]
  rfl

private theorem exists_chars_of_blank {rs : List Rune} (h : ∀ r ∈ rs, r.isBlank = true) :
    ∃ cs : List Char, rs = cs.map .point ∧ ∀ c ∈ cs, isBlankChar c = true := by
  induction rs with
  | nil => exact ⟨[], rfl, by simp⟩
  | cons r rs ih =>
    obtain ⟨hr, hrs⟩ := List.forall_mem_cons.mp h
    obtain ⟨cs, rfl, hcs⟩ := ih hrs
    cases r with
    | point c => exact ⟨c :: cs, rfl, List.forall_mem_cons.mpr ⟨hr, hcs⟩⟩
    | stray b => cases hr

theorem isBlankText_blankEnd (t : Bytes) : IsBlankText (blankEnd t) := by
  have hall : ∀ r ∈ (runes t).rtakeWhile Rune.isBlank, r.isBlank = true :=
    fun r hr => List.mem_rtakeWhile_imp hr
  obtain ⟨cs, hcs, hblank⟩ := exists_chars_of_blank hall
  exact ⟨cs, by rw [blankEnd, hcs, ofRunes_map_point], hblank⟩

/-- White space at the end of a text is among what trimming takes away, since no character begins
before it and ends in it. -/
theorem IsBlankText.suffix_blankEnd {t v : Bytes} (hv : IsBlankText v) (h : v <:+ t) :
    v <:+ blankEnd t := by
  obtain ⟨cs, rfl, hcs⟩ := hv
  obtain ⟨s, rfl⟩ := h
  have hblank : ∀ r ∈ cs.map Rune.point, r.isBlank = true := by
    intro r hr
    obtain ⟨c, hc, rfl⟩ := List.mem_map.mp hr
    exact hcs c hc
  rw [blankEnd, runes_append_chars, rtakeWhile_append hblank, ofRunes_append, ofRunes_map_point]
  exact List.suffix_append _ _

theorem isBlankEnd_iff {t w : Bytes} : IsBlankEnd t w ↔ w = blankEnd t := by
  have hsuffix : blankEnd t <:+ t := ⟨trimEnd t, trimEnd_append_blankEnd t⟩
  constructor
  · intro h
    exact (h.blank.suffix_blankEnd h.suffix).eq_of_length_le
      (h.longest _ hsuffix (isBlankText_blankEnd t))
  · rintro rfl
    exact ⟨hsuffix, isBlankText_blankEnd t, fun v hv hblank =>
      (hblank.suffix_blankEnd hv).length_le⟩

end Bytes

open Bytes

namespace CallContext

/-- A text taken apart at the call it breaks off in. -/
structure Parts where
  front : Bytes
  name : Bytes
  gap : Bytes
  args : Bytes
  deriving DecidableEq

/-- The parts of a text: the last parenthesis stands before `args`, the white space before it is
`gap`, and as many word bytes as there are before that are `name`. -/
structure Parts.Of (u : Bytes) (d : Parts) : Prop where
  text : u = d.front ++ d.name ++ d.gap ++ 0x28 :: d.args
  last : 0x28 ∉ d.args
  gap_blank : IsBlankEnd (d.front ++ d.name ++ d.gap) d.gap
  name_word : ∀ b ∈ d.name, isWord b = true
  front_ends : ∀ b ∈ d.front.getLast?, isWord b = false

/-- A text with a parenthesis has its parts, and no others. -/
theorem Parts.of_iff {before args : Bytes} (hargs : 0x28 ∉ args) {d : Parts} :
    d.Of (before ++ 0x28 :: args) ↔
      d = ⟨(trimEnd before).rdropWhile isWord, trailingWord (trimEnd before), blankEnd before,
        args⟩ := by
  have hsplit (t : Bytes) : t.rdropWhile isWord ++ trailingWord t = t :=
    List.rdropWhile_append_rtakeWhile
  constructor
  · rintro ⟨htext, hlast, hgap, hname, hfront⟩
    obtain ⟨front, name, gap, args'⟩ := d
    have hcut := congrArg (cutLast 0x28) htext
    rw [cutLast_append hargs, cutLast_append hlast] at hcut
    obtain ⟨rfl, rfl⟩ := Prod.mk.inj (Option.some.inj hcut)
    have hblank : gap = blankEnd (front ++ name ++ gap) := isBlankEnd_iff.mp hgap
    have hkept : front ++ name = trimEnd (front ++ name ++ gap) := by
      have := trimEnd_append_blankEnd (front ++ name ++ gap)
      rw [← hblank] at this
      exact (List.append_cancel_right this).symm
    have hword : name = trailingWord (front ++ name) :=
      endsInWord_iff.mp ⟨front, rfl, hname, hfront⟩
    have hrest : front = (front ++ name).rdropWhile isWord := by
      have := hsplit (front ++ name)
      rw [← hword] at this
      exact (List.append_cancel_right this).symm
    rw [← hkept, ← hrest, ← hword, ← hblank]
  · rintro rfl
    obtain ⟨front, hfront, hword, hlast⟩ :
        EndsInWord (trimEnd before) (trailingWord (trimEnd before)) := endsInWord_iff.mpr rfl
    have hrest : front = (trimEnd before).rdropWhile isWord :=
      List.append_cancel_right (hfront.symm.trans (hsplit _).symm)
    refine ⟨?_, hargs, ?_, hword, hrest ▸ hlast⟩
    · rw [hsplit, trimEnd_append_blankEnd]
    · rw [hsplit, trimEnd_append_blankEnd]
      exact isBlankEnd_iff.mpr rfl

theorem beforeCursor_eq (line : Bytes) (offset : Int) :
    beforeCursor line offset = line.take (max 0 (min offset line.length)).toNat := by
  have hclamp : (max 0 (min offset line.length)).toNat = min offset.toNat line.length := by omega
  rw [beforeCursor, hclamp, ← List.take_eq_take_min]

/-- There is no call exactly if no parenthesis stands before the cursor, an offset outside the line
being moved to its nearer end. Otherwise the text before the cursor has one set of parts, and the
call is their name and arguments. -/
theorem at_eq_parts (line : Bytes) (offset : Int) :
    let u := line.take (max 0 (min offset line.length)).toNat
    (at? line offset = none ↔ 0x28 ∉ u) ∧
      (0x28 ∈ u → ∃ d : Parts, (∀ d' : Parts, d'.Of u ↔ d' = d) ∧
        at? line offset = some ⟨d.name, d.args⟩) := by
  intro u
  have hat : at? line offset = ofText? u := congrArg ofText? (beforeCursor_eq line offset)
  rw [hat]
  refine ⟨ofText?_eq_none, ?_⟩
  intro hopen
  obtain ⟨before, args, hu, hargs⟩ := exists_last hopen
  rw [hu]
  refine ⟨_, fun d' => Parts.of_iff hargs, ?_⟩
  rw [ofText?, cutLast_append hargs, ← trailingWord_trim_eq]

/-- A stray byte before the name, an em space behind it, and an offset beyond the line. -/
theorem at_eq_parts_spaced :
    let line : Bytes := 0xFF :: utf8 "(beep\u2003 (1, 2)"
    let parts : Parts := ⟨0xFF :: utf8 "(", utf8 "beep", utf8 "\u2003 ", utf8 "1, 2)"⟩
    0x28 ∈ line ∧ parts.Of line ∧ at? line 99 = some ⟨utf8 "beep", utf8 "1, 2)"⟩ := by
  intro line parts
  have hparts : parts.Of (0xFF :: utf8 "(beep\u2003 " ++ 0x28 :: utf8 "1, 2)") :=
    (Parts.of_iff (by decide +kernel)).mpr (by decide +kernel)
  have hopen : 0x28 ∈ line := by decide +kernel
  have hline : line.take (max 0 (min 99 (line.length : Int))).toNat = line := by decide +kernel
  obtain ⟨_, hcall⟩ := at_eq_parts line 99
  rw [hline] at hcall
  obtain ⟨d, hunique, hat⟩ := hcall hopen
  have hof : parts.Of line := hparts
  obtain rfl := (hunique parts).mp hof
  exact ⟨hopen, hof, hat⟩

end CallContext

end CallAssist
