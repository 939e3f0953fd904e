import CallAssist.Proofs.Json.Body

/-! Texts spelled as JSON strings: a well-formed text is what its string stands for, and any other is
that with the replacement character for every stray byte. -/

namespace CallAssist

theorem Bytes.runes_ofChars (cs : List Char) : runes (ofChars cs) = cs.map .point := by
  induction cs with
  | nil => rfl
  | cons c cs ih =>
    have hc : ofChars (c :: cs) = String.utf8EncodeChar c ++ ofChars cs := List.flatMap_cons
    rw [hc, runes_encode, ih, List.map_cons]

/-- Different strings have different bytes. -/
theorem utf8_injective : Function.Injective utf8 := by
  intro a b h
  have hrunes (s : String) : Bytes.runes (utf8 s) = s.toList.map .point :=
    Bytes.runes_ofChars s.toList
  have hpoints : a.toList.map Rune.point = b.toList.map Rune.point := by
    rw [← hrunes, ← hrunes, h]
  exact String.toList_inj.mp (List.map_injective_iff.mpr (fun _ _ => Rune.point.inj) hpoints)

namespace Json

theorem scrub_scrub (t : Bytes) : scrub (scrub t) = scrub t := by
  have hc (cs : List Char) : Bytes.chars (Bytes.ofChars cs) = cs := by
    rw [Bytes.chars, Bytes.runes_ofChars, List.map_map]
    exact List.map_id cs
  rw [scrub, scrub, hc]

theorem isUtf8_scrub (t : Bytes) : Bytes.isUtf8 (scrub t) = true := by
  rw [Bytes.isUtf8, scrub, Bytes.runes_ofChars, List.all_map]
  exact List.all_eq_true.mpr fun _ _ => rfl

/-- Nothing is replaced in well-formed text. -/
theorem scrub_of_isUtf8 {t : Bytes} (h : Bytes.isUtf8 t = true) : scrub t = t :=
  Bytes.ofChars_chars h

private theorem plain_encode {c : Char} (hl : 0x20 ≤ c.val.toNat) (hq : c.val.toNat ≠ 0x22)
    (he : c.val.toNat ≠ 0x5C) :
    ∀ b ∈ String.utf8EncodeChar c, ¬ b < 0x20 ∧ b ≠ 0x22 ∧ b ≠ 0x5C := by
  intro b hb
  suffices h : 0x20 ≤ b.toNat ∧ b.toNat ≠ 0x22 ∧ b.toNat ≠ 0x5C by
    refine ⟨?_, ?_, ?_⟩
    · rw [UInt8.lt_iff_toNat_lt]
      exact Nat.not_lt.mpr h.1
    · rintro rfl
      exact h.2.1 rfl
    · rintro rfl
      exact h.2.2 rfl
  by_cases hn : c.val.toNat < 0x80
  · rcases Bytes.encode_cases c with ⟨_, he⟩ | ⟨_, _⟩ | ⟨_, _⟩ | ⟨_, _⟩
    · rw [he, List.mem_singleton] at hb
      have hv : b.toNat = c.val.toNat := by
        rw [hb, UInt8.toNat_ofNat', Nat.mod_eq_of_lt (by omega)]
      omega
    all_goals omega
  · have := UInt8.le_iff_toNat_le.mp (Bytes.encode_high (Nat.not_lt.mp hn) b hb)
    have h80 : (0x80 : UInt8).toNat = 0x80 := rfl
    omega

private def spelled (s : Bytes) : Bytes := pieceBytes (pieces s)

private theorem plain_append {bs t : Bytes} (hp : ∀ b ∈ bs, ¬ b < 0x20 ∧ b ≠ 0x22 ∧ b ≠ 0x5C)
    (ht : Body t) : Body (bs ++ t) ∧ spelled (bs ++ t) = bs ++ spelled t := by
  induction bs with
  | nil => exact ⟨ht, rfl⟩
  | cons b bs ih =>
    obtain ⟨⟨hb, hq, he⟩, hbs⟩ := List.forall_mem_cons.mp hp
    obtain ⟨h1, h2⟩ := ih hbs
    refine ⟨.plain hb hq he h1, ?_⟩
    rw [List.cons_append, spelled, pieces_plain he, pieceBytes, ← spelled, h2]
    rfl

private theorem escape_append {e : UInt8} {t : Bytes} (he : isEscape e = true) (ht : Body t) :
    Body ([0x5C, e] ++ t) ∧ spelled ([0x5C, e] ++ t) = [escapedByte e] ++ spelled t := by
  refine ⟨.escape he ht, ?_⟩
  rw [List.cons_append, List.singleton_append, spelled, pieces_escape he]
  rfl

private theorem unit_append {a b c d : UInt8} {t bs : Bytes} (ha : isHex a = true)
    (hb : isHex b = true) (hc : isHex c = true) (hd : isHex d = true)
    (hw : isWhole (hex4 a b c d) = true) (hu : unitBytes (hex4 a b c d) = bs) (ht : Body t) :
    Body ([0x5C, 0x75, a, b, c, d] ++ t) ∧
      spelled ([0x5C, 0x75, a, b, c, d] ++ t) = bs ++ spelled t := by
  refine ⟨.unit ha hb hc hd ht, ?_⟩
  have hp : pieces ([0x5C, 0x75, a, b, c, d] ++ t) = .unit (hex4 a b c d) :: pieces t := rfl
  rw [spelled, hp, pieceBytes_whole hw, hu, spelled]

private theorem hex2_control {n : Nat} (h : n < 0x20) : ∃ a b, Bytes.hex2 n = [a, b] ∧
    isHex a = true ∧ isHex b = true ∧ hex4 0x30 0x30 a b = n := by
  have hall : ∀ n ∈ List.range 0x20, ∀ a ∈ (Bytes.hex2 n).head?, ∀ b ∈ (Bytes.hex2 n).getLast?,
      isHex a = true ∧ isHex b = true ∧ hex4 0x30 0x30 a b = n := by decide +kernel
  obtain ⟨ha, hb, hn⟩ := hall n (List.mem_range.mpr h) _ rfl _ rfl
  exact ⟨_, _, rfl, ha, hb, hn⟩

private theorem rune_append (r : Rune) {t : Bytes} (ht : Body t) :
    Body (bodyOfRune r ++ t) ∧
      spelled (bodyOfRune r ++ t) = String.utf8EncodeChar r.char ++ spelled t := by
  cases r with
  | stray b => exact unit_append rfl rfl rfl rfl rfl rfl ht
  | point c =>
    have hc {n : Nat} (h : (c.toNat == n) = true) : c = Char.ofNat n := by
      rw [← beq_iff_eq.mp h, Char.ofNat_toNat]
    simp only [bodyOfRune, Rune.char]
    split_ifs with h1 h2 h3 h4 h5 h6 h7
    · rcases Bool.or_eq_true_iff.mp h1 with h | h
      · rw [hc h]
        exact escape_append rfl ht
      · rw [hc h]
        exact escape_append rfl ht
    · rw [hc h2]
      exact escape_append rfl ht
    · rw [hc h3]
      exact escape_append rfl ht
    · rw [hc h4]
      exact escape_append rfl ht
    · rw [hc h5]
      exact escape_append rfl ht
    · rw [hc h6]
      exact escape_append rfl ht
    · obtain ⟨a, b, hab, ha, hb, hn⟩ := hex2_control h7
      have hw : isWhole (hex4 0x30 0x30 a b) = true := by
        rw [hn]
        simp [isWhole, isHighHalf, isLowHalf]
        omega
      have hu : unitBytes (hex4 0x30 0x30 a b) = String.utf8EncodeChar c := by
        simp only [isWhole, Bool.and_eq_true, Bool.not_eq_true'] at hw
        rw [unitBytes, hw.1, hw.2, hn, Char.ofNat_toNat]
        rfl
      rw [hab]
      exact unit_append rfl rfl ha hb hw hu ht
    · rw [Bool.or_eq_true, beq_iff_eq, beq_iff_eq, not_or] at h1
      exact plain_append (plain_encode (Nat.not_lt.mp h7) h1.1 h1.2) ht

private theorem runes_spelled (rs : List Rune) : Body (rs.flatMap bodyOfRune) ∧
    spelled (rs.flatMap bodyOfRune) = Bytes.ofChars (rs.map Rune.char) := by
  induction rs with
  | nil => exact ⟨.nil, rfl⟩
  | cons r rs ih =>
    obtain ⟨hb, hs⟩ := rune_append r ih.1
    refine ⟨hb, ?_⟩
    rw [List.flatMap_cons, hs, ih.2]
    rfl

theorem body_bodyOfText (t : Bytes) : Body (bodyOfText t) := (runes_spelled _).1

/-- The string of a text stands for it, stray bytes apart. -/
theorem textOfBody_bodyOfText (t : Bytes) : textOfBody (bodyOfText t) = scrub t := by
  have h : pieceBytes (pieces (bodyOfText t)) = scrub t := (runes_spelled _).2
  rw [textOfBody, h, scrub_scrub]

theorem isUtf8_textOfBody (body : Bytes) : Bytes.isUtf8 (textOfBody body) = true := isUtf8_scrub _

end Json

end CallAssist
