import CallAssist.Call.Context
import CallAssist.Proofs.Text.Cuts
import CallAssist.Proofs.Text.Runes
import Mathlib.Data.List.DropRight

/-! The call that a text breaks off in, described without a search: its name ends the trimmed text
before the last parenthesis, and its arguments are told apart by the commas outside quotes. -/

namespace CallAssist

namespace Bytes

/-- A text without the white space at its ends: what is left starts and ends with no blank. -/
def Trims (t m : Bytes) : Prop :=
  ∃ front middle back, runes t = front ++ middle ++ back ∧
    (∀ r ∈ front, r.isBlank = true) ∧ (∀ r ∈ back, r.isBlank = true) ∧
    (∀ r ∈ middle.head?, r.isBlank = false) ∧ (∀ r ∈ middle.getLast?, r.isBlank = false) ∧
    m = ofRunes middle

/-- The longest run of word bytes that ends a text. -/
def EndsInWord (t word : Bytes) : Prop :=
  ∃ front, t = front ++ word ∧ (∀ b ∈ word, isWord b = true) ∧
    ∀ b ∈ front.getLast?, isWord b = false

private theorem dropWhile_split {α : Type} {p : α → Bool} {front rest : List α}
    (hf : ∀ a ∈ front, p a = true) (hr : ∀ a ∈ rest.head?, p a = false) :
    (front ++ rest).dropWhile p = rest := by
  rw [List.dropWhile_append_of_pos hf]
  cases rest with
  | nil => rfl
  | cons a rest => exact List.dropWhile_cons_of_neg (by simp [hr a rfl])

private theorem rdropWhile_split {α : Type} {p : α → Bool} {rest back : List α}
    (hr : ∀ a ∈ rest.getLast?, p a = false) (hb : ∀ a ∈ back, p a = true) :
    (rest ++ back).rdropWhile p = rest := by
  rw [List.rdropWhile, List.reverse_append,
    dropWhile_split (by simpa using hb) (by simpa using hr), List.reverse_reverse]

private theorem getLast?_rdropWhile {α : Type} (p : α → Bool) (l : List α) :
    ∀ a ∈ (l.rdropWhile p).getLast?, p a = false := by
  intro a ha
  have hne : l.rdropWhile p ≠ [] := by
    intro h
    rw [h] at ha
    cases ha
  rw [List.getLast?_eq_getLast_of_ne_nil hne] at ha
  obtain rfl : (l.rdropWhile p).getLast hne = a := Option.some.inj ha
  simpa using List.rdropWhile_last_not p l hne

private theorem head?_prefix {α : Type} {p : α → Bool} {l m : List α} (hp : m <+: l)
    (hl : ∀ a ∈ l.head?, p a = false) : ∀ a ∈ m.head?, p a = false := by
  obtain ⟨rest, rfl⟩ := hp
  cases m with
  | nil => simp
  | cons b m => simpa using hl

theorem trim_eq (t : Bytes) :
    trim t = ofRunes (((runes t).dropWhile Rune.isBlank).rdropWhile Rune.isBlank) := by
  have h := List.takeWhile_append_dropWhile (p := Rune.isBlank) (l := runes t)
  rw [trim, trimEnd, (runes_ofRunes_parts t h.symm).2]
  rfl

/-- Trimming gives the one text that is left. -/
theorem trims_iff {t m : Bytes} : Trims t m ↔ m = trim t := by
  constructor
  · rintro ⟨front, middle, back, ht, hf, hb, hh, hl, rfl⟩
    rw [trim_eq, ht, List.append_assoc]
    congr 1
    cases middle with
    | nil =>
      have : (front ++ ([] ++ back)).dropWhile Rune.isBlank = [] :=
        List.dropWhile_eq_nil_iff.mpr (by simpa [or_imp, forall_and] using ⟨hf, hb⟩)
      rw [this, List.rdropWhile_nil]
    | cons r middle => rw [dropWhile_split hf (by simpa using hh), rdropWhile_split hl hb]
  · rintro rfl
    refine ⟨(runes t).takeWhile Rune.isBlank,
      ((runes t).dropWhile Rune.isBlank).rdropWhile Rune.isBlank,
      ((runes t).dropWhile Rune.isBlank).rtakeWhile Rune.isBlank, ?_, ?_, ?_, ?_, ?_, trim_eq t⟩
    · rw [List.append_assoc, List.rdropWhile_append_rtakeWhile, List.takeWhile_append_dropWhile]
    · exact fun r hr => List.mem_takeWhile_imp hr
    · exact fun r hr => List.mem_rtakeWhile_imp hr
    · refine head?_prefix (List.rdropWhile_prefix _ _) fun r hr => ?_
      have := List.head?_dropWhile_not Rune.isBlank (runes t)
      rw [hr] at this
      exact this
    · exact getLast?_rdropWhile _ _

/-- The word that ends a text is the one run of word bytes that cannot be longer. -/
theorem endsInWord_iff {t word : Bytes} : EndsInWord t word ↔ word = trailingWord t := by
  have hw : trailingWord t = t.rtakeWhile isWord := rfl
  rw [hw]
  constructor
  · rintro ⟨front, rfl, hword, hlast⟩
    have := List.rdropWhile_append_rtakeWhile (p := isWord) (l := front ++ word)
    rw [rdropWhile_split hlast hword] at this
    exact (List.append_cancel_left this).symm
  · rintro rfl
    exact ⟨t.rdropWhile isWord, (List.rdropWhile_append_rtakeWhile).symm,
      fun b hb => List.mem_rtakeWhile_imp hb, getLast?_rdropWhile _ _⟩

/-- What is not blank is still there in the trimmed text. -/
theorem mem_trim {t : Bytes} {r : Rune} (hr : r ∈ runes t) (h : r.isBlank = false) :
    ∀ b ∈ r.bytes, b ∈ trim t := by
  obtain ⟨front, middle, back, ht, hfront, hback, _, _, hm⟩ :=
    trims_iff.mpr (rfl : trim t = trim t)
  have hmiddle : r ∈ middle := by
    rw [ht, List.mem_append, List.mem_append] at hr
    rcases hr with (hr | hr) | hr
    · rw [hfront r hr] at h
      cases h
    · exact hr
    · rw [hback r hr] at h
      cases h
  intro b hb
  rw [hm]
  exact List.mem_flatMap.mpr ⟨r, hmiddle, hb⟩

private theorem isWord_of_isBlank {r : Rune} (h : r.isBlank = true) :
    ∀ b ∈ r.bytes, isWord b = false := by
  have hnot {b : UInt8} (hb : b.toNat ≤ 0x20 ∨ 0x80 ≤ b.toNat) : isWord b = false := by
    simp only [isWord, isLower, isUpper, isDigit, Bool.or_eq_false_iff, Bool.and_eq_false_iff,
      decide_eq_false_iff_not, UInt8.le_iff_toNat_le, UInt8.reduceToNat, beq_eq_false_iff_ne, ne_eq,
      ← UInt8.toNat_inj]
    omega
  cases r with
  | stray b => cases h
  | point c =>
    intro b hb
    by_cases hc : 0x80 ≤ c.val.toNat
    · exact hnot (.inr (UInt8.le_iff_toNat_le.mp (encode_high hc b hb)))
    · have hsmall : c.val.toNat ≤ 0x20 := by
        simp only [Rune.isBlank, isBlankChar, Bool.or_eq_true, Bool.and_eq_true, beq_iff_eq,
          decide_eq_true_eq, UInt32.le_iff_toNat_le, UInt32.reduceToNat, ← UInt32.toNat_inj] at h
        omega
      rcases encode_cases c with ⟨_, he⟩ | ⟨hn, _⟩ | ⟨hn, _⟩ | ⟨hn, _⟩
      · rw [Rune.bytes, he, List.mem_singleton] at hb
        refine hnot (.inl ?_)
        rw [hb, UInt8.toNat_ofNat']
        omega
      · omega
      · omega
      · omega

/-- What stands in front of a text and is no part of a word leaves the word at its end alone. -/
theorem EndsInWord.append_left {s t word : Bytes} (h : EndsInWord t word)
    (hs : ∀ b ∈ s, isWord b = false) : EndsInWord (s ++ t) word := by
  obtain ⟨front, rfl, hword, hlast⟩ := h
  refine ⟨s ++ front, (List.append_assoc s front word).symm, hword, ?_⟩
  intro b hb
  rw [List.getLast?_append, Option.mem_def, Option.or_eq_some_iff] at hb
  rcases hb with hb | ⟨_, hb⟩
  · exact hlast b hb
  · exact hs b (List.mem_of_getLast? hb)

/-- White space in front of a text does not matter to the word that ends it. -/
theorem trailingWord_trim_eq (t : Bytes) : trailingWord (trim t) = trailingWord (trimEnd t) := by
  obtain ⟨front, middle, back, ht, hfront, hback, _, hlast, hm⟩ :=
    trims_iff.mpr (rfl : trim t = trim t)
  have hend : trimEnd t = ofRunes ((runes t).rdropWhile Rune.isBlank) := rfl
  cases middle with
  | nil =>
    have hall : ∀ r ∈ runes t, r.isBlank = true := by
      rw [ht, List.append_nil]
      exact List.forall_mem_append.mpr ⟨hfront, hback⟩
    rw [hend, List.rdropWhile_eq_nil_iff.mpr hall, hm]
  | cons r middle =>
    have hkept : (runes t).rdropWhile Rune.isBlank = front ++ r :: middle := by
      rw [ht]
      refine rdropWhile_split ?_ hback
      rwa [List.getLast?_append_of_ne_nil _ (List.cons_ne_nil r middle)]
    have hblank : ∀ b ∈ ofRunes front, isWord b = false := by
      intro b hb
      obtain ⟨r, hr, hb⟩ := List.mem_flatMap.mp hb
      exact isWord_of_isBlank (hfront r hr) b hb
    rw [hend, hkept, ofRunes_append, ← hm]
    exact endsInWord_iff.mp ((endsInWord_iff.mpr rfl).append_left hblank)

/-- A text that ends in no blank ends in the same word when it is trimmed. -/
theorem trailingWord_trim {t : Bytes} (h : ∀ r ∈ (runes t).getLast?, r.isBlank = false) :
    trailingWord (trim t) = trailingWord t := by
  have hend : trimEnd t = t := by
    change ofRunes ((runes t).rdropWhile Rune.isBlank) = t
    rw [← List.append_nil (runes t), rdropWhile_split h (by simp), ofRunes_runes]
  rw [trailingWord_trim_eq, hend]

end Bytes

open Bytes

/-- A text that breaks off in a call: `name` ends the trimmed text before the last parenthesis, and
`args` follows that. -/
def OpenCall (t name args : Bytes) : Prop :=
  ∃ before trimmed, t = before ++ 0x28 :: args ∧ 0x28 ∉ args ∧ Trims before trimmed ∧
    EndsInWord trimmed name

/-- The commas of a text that have an even number of quotes before them. -/
def commasOutsideQuotes (args : Bytes) : Nat :=
  (List.range args.length).countP fun i =>
    args[i]? == some 0x2C && (args.take i).countP CallContext.isQuote % 2 == 0

namespace CallContext

/-- The call that is found is the one the text breaks off in. -/
theorem ofText?_eq_some {t : Bytes} {c : CallContext} :
    ofText? t = some c ↔ OpenCall t c.name c.args := by
  constructor
  · intro h
    by_cases hp : (0x28 : UInt8) ∈ t
    · obtain ⟨before, args, rfl, hargs⟩ := exists_last hp
      rw [ofText?, cutLast_append hargs] at h
      obtain rfl := Option.some.inj h
      exact ⟨before, trim before, rfl, hargs, trims_iff.mpr rfl, endsInWord_iff.mpr rfl⟩
    · rw [ofText?, cutLast_eq_none hp] at h
      cases h
  · rintro ⟨before, trimmed, rfl, hargs, ht, hw⟩
    rw [ofText?, cutLast_append hargs]
    change some (⟨trailingWord (trim before), c.args⟩ : CallContext) = some c
    rw [← trims_iff.mp ht, ← endsInWord_iff.mp hw]

theorem ofText?_eq_none {t : Bytes} : ofText? t = none ↔ 0x28 ∉ t := by
  constructor
  · intro h hp
    obtain ⟨before, args, rfl, hargs⟩ := exists_last hp
    rw [ofText?, cutLast_append hargs] at h
    cases h
  · intro h
    rw [ofText?, cutLast_eq_none h]

private theorem commasFrom_eq (quoted : Bool) (args : Bytes) :
    commasFrom quoted args = (List.range args.length).countP fun i =>
      args[i]? == some 0x2C && ((args.take i).countP isQuote + quoted.toNat) % 2 == 0 := by
  induction args generalizing quoted with
  | nil => rfl
  | cons b t ih =>
    rw [List.length_cons, List.range_succ_eq_map, List.countP_cons, List.countP_map, commasFrom]
    simp only [Function.comp_def, List.getElem?_cons_succ, List.take_succ_cons, List.countP_cons,
      List.getElem?_cons_zero, List.take_zero, List.countP_nil]
    by_cases hq : isQuote b = true
    · have hb : b ≠ 0x2C := by rintro rfl; cases hq
      have hflip (n : Nat) : (n + 1 + quoted.toNat) % 2 = (n + (!quoted).toNat) % 2 := by
        cases quoted with
        | true => rw [Bool.toNat_true, Bool.not_true, Bool.toNat_false]; omega
        | false => rfl
      simp [hq, hb, hflip, ih]
    · cases quoted with
      | true => simp [hq, ih]
      | false =>
        by_cases hb : b = 0x2C
        · simp [hb, ih, show isQuote 0x2C = false from rfl]
        · simp [hq, hb, ih]

/-- No comma is counted that is not there. -/
theorem commasFrom_le_count (quoted : Bool) (args : Bytes) :
    commasFrom quoted args ≤ args.count 0x2C := by
  induction args generalizing quoted with
  | nil => exact Nat.le_refl 0
  | cons b t ih =>
    have hkept : t.count 0x2C ≤ (b :: t).count 0x2C := List.count_le_count_cons
    rw [commasFrom]
    split_ifs with hquote hcomma
    · exact (ih _).trans hkept
    · obtain rfl : b = 0x2C := beq_iff_eq.mp (Bool.and_eq_true_iff.mp hcomma).1
      rw [List.count_cons_self]
      exact Nat.succ_le_succ (ih _)
    · exact (ih _).trans hkept

/-- The active parameter is the number of commas outside quotes. -/
theorem activeParameter_eq (args : Bytes) : activeParameter args = commasOutsideQuotes args := by
  rw [activeParameter, commasFrom_eq]
  rfl

end CallContext

end CallAssist
