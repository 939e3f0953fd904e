import CallAssist.Json.Parser
import CallAssist.Json.Printer
import CallAssist.Json.Text
import CallAssist.Proofs.Text.Runes

/-! The bodies of JSON strings. What is read between quotes is well formed; guarding it keeps the text
it stands for, and so does spelling a text and reading it again. -/

namespace CallAssist

namespace Json

/-- What may stand between the quotes of a string. -/
inductive Body : Bytes → Prop where
  | nil : Body []
  | plain {b : UInt8} {t : Bytes} (hb : ¬ b < 0x20) (hq : b ≠ 0x22) (he : b ≠ 0x5C) (h : Body t) :
    Body (b :: t)
  | escape {e : UInt8} {t : Bytes} (he : isEscape e = true) (h : Body t) : Body (0x5C :: e :: t)
  | unit {a b c d : UInt8} {t : Bytes} (ha : isHex a = true) (hb : isHex b = true)
      (hc : isHex c = true) (hd : isHex d = true) (h : Body t) :
    Body (0x5C :: 0x75 :: a :: b :: c :: d :: t)

theorem readBody_plain {b : UInt8} (hb : ¬ b < 0x20) (hq : b ≠ 0x22) (he : b ≠ 0x5C) (t : Bytes) :
    readBody (b :: t) = (readBody t).map fun (s, r) => (b :: s, r) := by
  simp [readBody, hb, he]

private theorem escape_ne_u {e : UInt8} (he : isEscape e = true) : e ≠ 0x75 := by
  rintro rfl
  cases he

theorem readBody_escape {e : UInt8} (he : isEscape e = true) (t : Bytes) :
    readBody (0x5C :: e :: t) = (readBody t).map fun (s, r) => (0x5C :: e :: s, r) := by
  simp [readBody, he, escape_ne_u he]

/-- A body is read up to the quote that follows it. -/
theorem Body.readBody_append {s : Bytes} (h : Body s) (r : Bytes) :
    readBody (s ++ 0x22 :: r) = some (s, r) := by
  induction h with
  | nil => rfl
  | plain hb hq he _ ih => rw [List.cons_append, readBody_plain hb hq he, ih]; rfl
  | escape he _ ih => rw [List.cons_append, List.cons_append, readBody_escape he, ih]; rfl
  | unit ha hb hc hd _ ih => simp [readBody, ha, hb, hc, hd, ih]

def isPlain (b : UInt8) : Bool := !(b < 0x20 || b == 0x22 || b == 0x5C)

theorem body_of_isPlain {s : Bytes} (h : s.all isPlain = true) : Body s := by
  induction s with
  | nil => exact .nil
  | cons b s ih =>
    rw [List.all_cons, Bool.and_eq_true] at h
    have hb := h.1
    simp only [isPlain, Bool.not_eq_true', Bool.or_eq_false_iff, decide_eq_false_iff_not,
      beq_eq_false_iff_ne] at hb
    exact .plain hb.1.1 hb.1.2 hb.2 (ih h.2)

/-- What is read as a body is one. -/
theorem body_of_readBody {t s r : Bytes} (h : readBody t = some (s, r)) : Body s := by
  fun_induction readBody t generalizing s r with
  | case1 => cases h
  | case2 t =>
    cases h
    exact .nil
  | case3 a b c d t hx ih =>
    obtain ⟨⟨s', r'⟩, hs, he⟩ := Option.map_eq_some_iff.mp h
    cases he
    simp only [Bool.and_eq_true] at hx
    exact .unit hx.1.1.1 hx.1.1.2 hx.1.2 hx.2 (ih hs)
  | case4 => cases h
  | case5 e t _ hx ih =>
    obtain ⟨⟨s', r'⟩, hs, he⟩ := Option.map_eq_some_iff.mp h
    cases he
    exact .escape hx (ih hs)
  | case6 => cases h
  | case7 => cases h
  | case8 b t hq h1 h2 hb ih =>
    obtain ⟨⟨s', r'⟩, hs, he⟩ := Option.map_eq_some_iff.mp h
    cases he
    by_cases hback : b = 0x5C
    · subst hback
      cases t with
      | nil => cases hs
      | cons e t => exact absurd rfl (h2 e t rfl)
    · exact .plain hb hq hback (ih hs)

def guardByte (b : UInt8) : Bytes :=
  if b == 0x3C then utf8 "\\u003c"
  else if b == 0x3E then utf8 "\\u003e"
  else if b == 0x26 then utf8 "\\u0026"
  else [b]

def isSeparatorEnd (b : UInt8) : Bool := b == 0xA8 || b == 0xA9

theorem guarded_cons {b : UInt8} {t : Bytes}
    (h : ∀ c u, b = 0xE2 → t = 0x80 :: c :: u → isSeparatorEnd c = false) :
    guarded (b :: t) = guardByte b ++ guarded t := by
  by_cases hs : b = 0xE2 ∧ ∃ c u, t = 0x80 :: c :: u
  · obtain ⟨rfl, c, u, rfl⟩ := hs
    have hc := h c u rfl rfl
    simp only [isSeparatorEnd, Bool.or_eq_false_iff] at hc
    have htail : guarded (0x80 :: c :: u) = 0x80 :: guarded (c :: u) := by simp [guarded]
    rw [guarded, htail, hc.1, hc.2]
    rfl
  · rw [guarded]
    · rfl
    · exact fun c u hb ht => hs ⟨hb, c, u, ht⟩

private theorem guarded_same {b : UInt8} (hb : guardByte b = [b]) (hE : b ≠ 0xE2) (t : Bytes) :
    guarded (b :: t) = b :: guarded t := by
  rw [guarded_cons fun c u h _ => absurd h hE, hb]
  rfl

private theorem guarded_escape {e : UInt8} (he : isEscape e = true) (t : Bytes) :
    guarded (0x5C :: e :: t) = 0x5C :: e :: guarded t := by
  have hall : ∀ e ∈ utf8 "\"\\/bfnrt", guardByte e = [e] ∧ e ≠ 0xE2 := by
    decide +kernel
  obtain ⟨hg, hE⟩ := hall e (List.contains_iff_mem.mp he)
  rw [guarded_same (by decide) (by decide), guarded_same hg hE]

private theorem guarded_hex {a : UInt8} (ha : isHex a = true) (t : Bytes) :
    guarded (a :: t) = a :: guarded t := by
  refine guarded_same ?_ ?_ t
  · unfold guardByte
    split_ifs with h1 h2 h3
    · rw [beq_iff_eq.mp h1] at ha
      cases ha
    · rw [beq_iff_eq.mp h2] at ha
      cases ha
    · rw [beq_iff_eq.mp h3] at ha
      cases ha
    · rfl
  · rintro rfl
    cases ha

/-- Induction along a body the way it is guarded: a separator is taken as a whole. -/
theorem Body.guarded_induction {P : (s : Bytes) → Body s → Prop} (nil : P [] .nil)
    (plain : ∀ b t (hb : ¬ b < 0x20) (hq : b ≠ 0x22) (he : b ≠ 0x5C) (h : Body t),
      guarded (b :: t) = guardByte b ++ guarded t → P t h → P (b :: t) (.plain hb hq he h))
    (separator : ∀ b t (h : Body t) (h' : Body (0xE2 :: 0x80 :: b :: t)),
      isSeparatorEnd b = true → P t h → P (0xE2 :: 0x80 :: b :: t) h')
    (escape : ∀ e t (he : isEscape e = true) (h : Body t),
      guarded (0x5C :: e :: t) = 0x5C :: e :: guarded t →
      P t h → P (0x5C :: e :: t) (.escape he h))
    (unit : ∀ a b c d t (ha : isHex a = true) (hb : isHex b = true) (hc : isHex c = true)
      (hd : isHex d = true) (h : Body t),
      guarded (0x5C :: 0x75 :: a :: b :: c :: d :: t) =
        0x5C :: 0x75 :: a :: b :: c :: d :: guarded t →
      P t h → P (0x5C :: 0x75 :: a :: b :: c :: d :: t) (.unit ha hb hc hd h))
    {s : Bytes} (h : Body s) : P s h := by
  induction hn : s.length using Nat.strong_induction_on generalizing s with
  | _ n ih =>
    cases h with
    | nil => exact nil
    | @plain b t hb hq he h =>
      by_cases hs : ∃ c u, b = 0xE2 ∧ t = 0x80 :: c :: u ∧ isSeparatorEnd c = true
      · obtain ⟨c, u, rfl, rfl, hc⟩ := hs
        have hu : Body u := by
          cases h with
          | plain _ _ _ h =>
            cases h with
            | plain _ _ _ h => exact h
            | escape => cases hc
            | unit => cases hc
        exact separator c u hu _ hc (ih u.length (by simp at hn; omega) hu rfl)
      · refine plain b t hb hq he h (guarded_cons fun c u hE ht => ?_)
          (ih t.length (by simp at hn; omega) h rfl)
        rw [← Bool.not_eq_true]
        exact fun hc => hs ⟨c, u, hE, ht, hc⟩
    | @escape e t he h =>
      exact escape e t he h (guarded_escape he t) (ih t.length (by simp at hn; omega) h rfl)
    | @unit a b c d t ha hb hc hd h =>
      refine unit a b c d t ha hb hc hd h ?_ (ih t.length (by simp at hn; omega) h rfl)
      rw [guarded_same (by decide) (by decide), guarded_same (by decide) (by decide),
        guarded_hex ha, guarded_hex hb, guarded_hex hc, guarded_hex hd]

private theorem body_guardByte {b : UInt8} {t : Bytes} (hb : ¬ b < 0x20) (hq : b ≠ 0x22)
    (he : b ≠ 0x5C) (h : Body t) : Body (guardByte b ++ t) := by
  unfold guardByte
  split_ifs
  · exact .unit rfl rfl rfl rfl h
  · exact .unit rfl rfl rfl rfl h
  · exact .unit rfl rfl rfl rfl h
  · exact .plain hb hq he h

private theorem guarded_separator {b : UInt8} (hb : isSeparatorEnd b = true) (t : Bytes) :
    ∃ d, isHex d = true ∧
      guarded (0xE2 :: 0x80 :: b :: t) = 0x5C :: 0x75 :: 0x32 :: 0x30 :: 0x32 :: d :: guarded t := by
  simp only [isSeparatorEnd, Bool.or_eq_true, beq_iff_eq] at hb
  rcases hb with rfl | rfl
  · exact ⟨0x38, rfl, rfl⟩
  · exact ⟨0x39, rfl, rfl⟩

/-- A guarded body is a body. -/
theorem Body.guarded {s : Bytes} (h : Body s) : Body (Json.guarded s) := by
  induction h using Body.guarded_induction with
  | nil => exact .nil
  | plain b t hb hq he _ hg ih =>
    rw [hg]
    exact body_guardByte hb hq he ih
  | separator b t _ _ hb ih =>
    obtain ⟨d, hd, hg⟩ := guarded_separator hb t
    rw [hg]
    exact .unit rfl rfl rfl hd ih
  | escape e t he _ hg ih =>
    rw [hg]
    exact .escape he ih
  | unit a b c d t ha hb hc hd _ hg ih =>
    rw [hg]
    exact .unit ha hb hc hd ih

theorem pieces_plain {b : UInt8} (he : b ≠ 0x5C) (t : Bytes) :
    pieces (b :: t) = .byte b :: pieces t := by
  simp [pieces, he]

theorem pieces_escape {e : UInt8} (he : isEscape e = true) (t : Bytes) :
    pieces (0x5C :: e :: t) = .byte (escapedByte e) :: pieces t := by
  simp [pieces, escape_ne_u he]

def isWhole (n : Nat) : Bool := !isHighHalf n && !isLowHalf n

theorem pieceBytes_whole {n : Nat} (h : isWhole n = true) (ps : List Piece) :
    pieceBytes (.unit n :: ps) = unitBytes n ++ pieceBytes ps := by
  simp only [isWhole, Bool.and_eq_true, Bool.not_eq_true'] at h
  cases ps with
  | nil => rfl
  | cons p ps =>
    cases p with
    | byte b => rfl
    | unit m => simp [pieceBytes, h.1]

theorem pieceBytes_before_whole {m : Nat} (h : isWhole m = true) (n : Nat) (ps : List Piece) :
    pieceBytes (.unit n :: .unit m :: ps) = unitBytes n ++ pieceBytes (.unit m :: ps) := by
  simp only [isWhole, Bool.and_eq_true, Bool.not_eq_true'] at h
  simp [pieceBytes, h.2]

def SameBytes (ps qs : List Piece) : Prop :=
  pieceBytes ps = pieceBytes qs ∧ ∀ n, pieceBytes (.unit n :: ps) = pieceBytes (.unit n :: qs)

theorem SameBytes.byte {ps qs : List Piece} (h : SameBytes ps qs) (b : UInt8) :
    SameBytes (.byte b :: ps) (.byte b :: qs) :=
  ⟨by simp [pieceBytes, h.1], fun n => by simp [pieceBytes, h.1]⟩

theorem SameBytes.unit {ps qs : List Piece} (h : SameBytes ps qs) (m : Nat) :
    SameBytes (.unit m :: ps) (.unit m :: qs) :=
  ⟨h.2 m, fun n => by simp [pieceBytes, h.1, h.2 m]⟩

/-- A whole character may stand there as a unit or as its bytes. -/
theorem SameBytes.whole {ps qs : List Piece} (h : SameBytes ps qs) {m : Nat} {b : UInt8}
    {bs : Bytes} (hm : isWhole m = true) (hu : unitBytes m = b :: bs) :
    SameBytes (.unit m :: ps) (.byte b :: (bs.map .byte ++ qs)) := by
  have hbytes (bs : Bytes) : pieceBytes (bs.map .byte ++ qs) = bs ++ pieceBytes qs := by
    induction bs with
    | nil => rfl
    | cons b bs ih => simp [pieceBytes, ih]
  have hq : pieceBytes (.byte b :: (bs.map .byte ++ qs)) = unitBytes m ++ pieceBytes ps := by
    rw [pieceBytes, hbytes, hu, h.1]
    rfl
  refine ⟨by rw [pieceBytes_whole hm, hq], fun n => ?_⟩
  rw [pieceBytes_before_whole hm, pieceBytes_whole hm, ← hq]
  simp [pieceBytes]

private theorem sameBytes_guardByte {b : UInt8} {t u : Bytes} (he : b ≠ 0x5C)
    (h : SameBytes (pieces t) (pieces u)) : SameBytes (pieces (guardByte b ++ t)) (pieces (b :: u)) := by
  rw [pieces_plain he]
  unfold guardByte
  split_ifs with h1 h2 h3
  · rw [beq_iff_eq.mp h1]
    exact h.whole (m := 0x3C) rfl rfl
  · rw [beq_iff_eq.mp h2]
    exact h.whole (m := 0x3E) rfl rfl
  · rw [beq_iff_eq.mp h3]
    exact h.whole (m := 0x26) rfl rfl
  · rw [List.singleton_append, pieces_plain he]
    exact h.byte b

theorem Body.sameBytes_guarded {s : Bytes} (h : Body s) :
    SameBytes (pieces (Json.guarded s)) (pieces s) := by
  induction h using Body.guarded_induction with
  | nil => exact ⟨rfl, fun _ => rfl⟩
  | plain b t hb hq he _ hg ih =>
    rw [hg]
    exact sameBytes_guardByte he ih
  | separator b t _ _ hb ih =>
    simp only [isSeparatorEnd, Bool.or_eq_true, beq_iff_eq] at hb
    rcases hb with rfl | rfl
    · exact ih.whole (m := 0x2028) rfl rfl
    · exact ih.whole (m := 0x2029) rfl rfl
  | escape e t he _ hg ih =>
    rw [hg, pieces_escape he, pieces_escape he]
    exact ih.byte _
  | unit a b c d t _ _ _ _ _ hg ih =>
    rw [hg]
    exact ih.unit _

/-- Guarding keeps the text that a body stands for. -/
theorem Body.textOfBody_guarded {s : Bytes} (h : Body s) :
    textOfBody (Json.guarded s) = textOfBody s := by
  rw [textOfBody, h.sameBytes_guarded.1, textOfBody]

end Json

end CallAssist
