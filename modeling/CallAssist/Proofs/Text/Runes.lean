import CallAssist.Text.Rune
import Mathlib.Data.List.Infix
import Mathlib.Tactic.Common

/-! A text and its runes: reading loses no byte, and a part that ends between two runes is read like
the whole. -/

namespace CallAssist

namespace Bytes

private theorem byte_eq_ofNat {b : UInt8} {n : Nat} (hn : n < 256) :
    UInt8.ofNat n = b ↔ b.toNat = n := by
  rw [← UInt8.toNat_inj, UInt8.toNat_ofNat', Nat.mod_eq_of_lt hn]
  exact eq_comm

private theorem code_ofNat {n : Nat} (h : n < 0xD800 ∨ 0xDFFF < n ∧ n < 0x110000) :
    (Char.ofNat n).val.toNat = n := by
  have hv : n.isValidChar := h
  rw [Char.ofNat, dif_pos hv]
  rfl

private theorem ofNat_eq {c : Char} {n : Nat} (h : n = c.val.toNat) : Char.ofNat n = c := by
  rw [h]
  exact Char.ofNat_toNat c

/-- The four lengths of an encoded character, by its number. -/
theorem encode_cases (c : Char) :
    let n := c.val.toNat
    (n < 0x80 ∧ String.utf8EncodeChar c = [UInt8.ofNat n]) ∨
    (0x80 ≤ n ∧ n < 0x800 ∧
      String.utf8EncodeChar c = [UInt8.ofNat (n / 64 + 0xC0), UInt8.ofNat (n % 64 + 0x80)]) ∨
    (0x800 ≤ n ∧ n < 0x10000 ∧ (n < 0xD800 ∨ 0xDFFF < n) ∧
      String.utf8EncodeChar c = [UInt8.ofNat (n / 4096 + 0xE0), UInt8.ofNat (n / 64 % 64 + 0x80),
        UInt8.ofNat (n % 64 + 0x80)]) ∨
    (0x10000 ≤ n ∧ n < 0x110000 ∧
      String.utf8EncodeChar c = [UInt8.ofNat (n / 262144 + 0xF0),
        UInt8.ofNat (n / 4096 % 64 + 0x80), UInt8.ofNat (n / 64 % 64 + 0x80),
        UInt8.ofNat (n % 64 + 0x80)]) := by
  intro n
  have hv : n < 0xD800 ∨ 0xDFFF < n ∧ n < 0x110000 := c.valid
  have he : String.utf8EncodeChar c = if n ≤ 0x7F then [UInt8.ofNat n]
      else if n ≤ 0x7FF then [UInt8.ofNat (n / 64 % 32 + 0xC0), UInt8.ofNat (n % 64 + 0x80)]
      else if n ≤ 0xFFFF then [UInt8.ofNat (n / 4096 % 16 + 0xE0),
        UInt8.ofNat (n / 64 % 64 + 0x80), UInt8.ofNat (n % 64 + 0x80)]
      else [UInt8.ofNat (n / 262144 % 8 + 0xF0), UInt8.ofNat (n / 4096 % 64 + 0x80),
        UInt8.ofNat (n / 64 % 64 + 0x80), UInt8.ofNat (n % 64 + 0x80)] := rfl
  rw [he]
  split_ifs with h1 h2 h3
  · exact .inl ⟨by omega, rfl⟩
  · rw [Nat.mod_eq_of_lt (a := n / 64) (b := 32) (by omega)]
    exact .inr (.inl ⟨by omega, by omega, rfl⟩)
  · rw [Nat.mod_eq_of_lt (a := n / 4096) (b := 16) (by omega)]
    exact .inr (.inr (.inl ⟨by omega, by omega, by omega, rfl⟩))
  · rw [Nat.mod_eq_of_lt (a := n / 262144) (b := 8) (by omega)]
    exact .inr (.inr (.inr ⟨by omega, by omega, rfl⟩))

/-- Beyond ASCII no byte of a character is an ASCII character. -/
theorem encode_high {c : Char} (h : 0x80 ≤ c.val.toNat) :
    ∀ b ∈ String.utf8EncodeChar c, 0x80 ≤ b := by
  have high {n : Nat} (hn : n < 256) (hl : 0x80 ≤ n) : 0x80 ≤ UInt8.ofNat n := by
    rw [UInt8.le_iff_toNat_le, UInt8.toNat_ofNat', Nat.mod_eq_of_lt hn]
    exact hl
  rcases encode_cases c with ⟨hn, _⟩ | ⟨_, _, hb⟩ | ⟨_, _, _, hb⟩ | ⟨_, _, hb⟩
  · omega
  · rw [hb]
    refine List.forall_mem_cons.mpr ⟨high (by omega) (by omega), ?_⟩
    exact List.forall_mem_singleton.mpr (high (by omega) (by omega))
  · rw [hb]
    refine List.forall_mem_cons.mpr ⟨high (by omega) (by omega), ?_⟩
    refine List.forall_mem_cons.mpr ⟨high (by omega) (by omega), ?_⟩
    exact List.forall_mem_singleton.mpr (high (by omega) (by omega))
  · rw [hb]
    refine List.forall_mem_cons.mpr ⟨high (by omega) (by omega), ?_⟩
    refine List.forall_mem_cons.mpr ⟨high (by omega) (by omega), ?_⟩
    refine List.forall_mem_cons.mpr ⟨high (by omega) (by omega), ?_⟩
    exact List.forall_mem_singleton.mpr (high (by omega) (by omega))

/-- The one-byte characters are the bytes below 0x80. -/
theorem encode_eq_single {a : UInt8} {c : Char} :
    String.utf8EncodeChar c = [a] ↔ a < 0x80 ∧ Char.ofNat a.toNat = c := by
  have ha := a.toNat_lt
  have hlt : a < 0x80 ↔ a.toNat < 0x80 := UInt8.lt_iff_toNat_lt
  constructor
  · intro h
    rcases encode_cases c with ⟨hn, he⟩ | ⟨_, _, he⟩ | ⟨_, _, _, he⟩ | ⟨_, _, he⟩ <;> rw [he] at h <;>
      simp only [List.cons.injEq, List.cons_ne_nil, and_false, and_true] at h
    rw [byte_eq_ofNat (by omega)] at h
    exact ⟨hlt.mpr (by omega), ofNat_eq h⟩
  · rintro ⟨h, rfl⟩
    have hv := code_ofNat (n := a.toNat) (by have := hlt.mp h; omega)
    rcases encode_cases (Char.ofNat a.toNat) with ⟨hn, he⟩ | h' | h' | h' <;> rw [hv] at *
    · rw [he, UInt8.ofNat_toNat]
    all_goals have := hlt.mp h; omega

private theorem isTail_iff {b : UInt8} : isTail b = true ↔ 0x80 ≤ b.toNat ∧ b.toNat < 0xC0 := by
  simp [isTail, UInt8.le_iff_toNat_le, UInt8.lt_iff_toNat_lt]

/-- A character begins with a byte that continues none. -/
theorem isTail_head (c : Char) : ∀ b ∈ (String.utf8EncodeChar c).head?, isTail b = false := by
  have lead {n : Nat} (hu : n < 256) (h : n < 0x80 ∨ 0xC0 ≤ n) :
      isTail (UInt8.ofNat n) = false := by
    rw [Bool.eq_false_iff, ne_eq, isTail_iff, UInt8.toNat_ofNat', Nat.mod_eq_of_lt hu]
    omega
  intro b hb
  rcases encode_cases c with ⟨_, he⟩ | ⟨_, _, he⟩ | ⟨_, _, _, he⟩ | ⟨_, _, he⟩
  all_goals
    rw [he] at hb
    obtain rfl := Option.some.inj hb
    exact lead (by omega) (by omega)

/-- The other bytes of a character all continue it. -/
theorem isTail_of_mem_tail {c : Char} {b : UInt8} (h : b ∈ (String.utf8EncodeChar c).tail) :
    isTail b = true := by
  have sixBits (n : Nat) : isTail (UInt8.ofNat (n % 64 + 0x80)) = true := by
    rw [isTail_iff, UInt8.toNat_ofNat', Nat.mod_eq_of_lt (a := n % 64 + 0x80) (by omega)]
    omega
  rcases encode_cases c with ⟨_, he⟩ | ⟨_, _, he⟩ | ⟨_, _, _, he⟩ | ⟨_, _, he⟩
  · rw [he] at h
    cases h
  · rw [he, List.tail_cons, List.mem_singleton] at h
    exact h ▸ sixBits _
  · rw [he, List.tail_cons] at h
    rcases List.mem_cons.mp h with rfl | h
    · exact sixBits _
    · exact List.mem_singleton.mp h ▸ sixBits _
  · rw [he, List.tail_cons] at h
    rcases List.mem_cons.mp h with rfl | h
    · exact sixBits _
    · rcases List.mem_cons.mp h with rfl | h
      · exact sixBits _
      · exact List.mem_singleton.mp h ▸ sixBits _

/-- A well-formed pair is the encoding of its character. -/
theorem pair?_eq_some {a b : UInt8} {c : Char} :
    pair? a b = some c ↔ String.utf8EncodeChar c = [a, b] := by
  have ha := a.toNat_lt
  have hb := b.toNat_lt
  have hb6 : low6 b = b.toNat % 64 := rfl
  simp only [pair?, Bool.and_eq_true, isTail_iff, decide_eq_true_eq, UInt8.le_iff_toNat_le,
    UInt8.lt_iff_toNat_lt, UInt8.reduceToNat]
  constructor
  · intro h
    split_ifs at h with hc
    have hv := code_ofNat (n := a.toNat % 32 * 64 + low6 b) (by omega)
    rw [Option.some.inj h] at hv
    rcases encode_cases c with ⟨hn, _⟩ | ⟨h1, h2, he⟩ | ⟨h1, _⟩ | ⟨h1, _⟩
    · omega
    · rw [he]
      simp only [List.cons.injEq, and_true]
      exact ⟨(byte_eq_ofNat (by omega)).mpr (by omega), (byte_eq_ofNat (by omega)).mpr (by omega)⟩
    · omega
    · omega
  · intro h
    rcases encode_cases c with ⟨_, he⟩ | ⟨h1, h2, he⟩ | ⟨_, _, _, he⟩ | ⟨_, _, he⟩ <;> rw [he] at h <;>
      simp only [List.cons.injEq, List.cons_ne_nil, reduceCtorEq, and_false, and_true] at h
    rw [byte_eq_ofNat (by omega), byte_eq_ofNat (by omega)] at h
    rw [if_pos (by omega), ofNat_eq (c := c) (by omega)]

/-- A well-formed triple is the encoding of its character. -/
theorem triple?_eq_some {a b d : UInt8} {c : Char} :
    triple? a b d = some c ↔ String.utf8EncodeChar c = [a, b, d] := by
  have ha := a.toNat_lt
  have hb := b.toNat_lt
  have hd := d.toNat_lt
  have hb6 : low6 b = b.toNat % 64 := rfl
  have hd6 : low6 d = d.toNat % 64 := rfl
  simp only [triple?, Bool.and_eq_true, Bool.or_eq_true, isTail_iff, decide_eq_true_eq,
    UInt8.le_iff_toNat_le, UInt8.lt_iff_toNat_lt, UInt8.reduceToNat]
  constructor
  · intro h
    split_ifs at h with hc hn
    have hv := code_ofNat (n := a.toNat % 16 * 4096 + low6 b * 64 + low6 d) (by omega)
    rw [Option.some.inj h] at hv
    rcases encode_cases c with ⟨h1, _⟩ | ⟨h1, h2, _⟩ | ⟨h1, h2, h3, he⟩ | ⟨h1, _⟩
    · omega
    · omega
    · rw [he]
      simp only [List.cons.injEq, and_true]
      exact ⟨(byte_eq_ofNat (by omega)).mpr (by omega), (byte_eq_ofNat (by omega)).mpr (by omega),
        (byte_eq_ofNat (by omega)).mpr (by omega)⟩
    · omega
  · intro h
    rcases encode_cases c with ⟨_, he⟩ | ⟨_, _, he⟩ | ⟨h1, h2, h3, he⟩ | ⟨_, _, he⟩ <;> rw [he] at h <;>
      simp only [List.cons.injEq, List.cons_ne_nil, reduceCtorEq, and_false, and_true] at h
    rw [byte_eq_ofNat (by omega), byte_eq_ofNat (by omega), byte_eq_ofNat (by omega)] at h
    rw [if_pos (by omega), if_neg (by omega), ofNat_eq (c := c) (by omega)]

/-- A well-formed quadruple is the encoding of its character. -/
theorem quad?_eq_some {a b d e : UInt8} {c : Char} :
    quad? a b d e = some c ↔ String.utf8EncodeChar c = [a, b, d, e] := by
  have ha := a.toNat_lt
  have hb := b.toNat_lt
  have hd := d.toNat_lt
  have hf := e.toNat_lt
  have hb6 : low6 b = b.toNat % 64 := rfl
  have hd6 : low6 d = d.toNat % 64 := rfl
  have he6 : low6 e = e.toNat % 64 := rfl
  simp only [quad?, Bool.and_eq_true, Bool.or_eq_true, isTail_iff, decide_eq_true_eq,
    UInt8.le_iff_toNat_le, UInt8.lt_iff_toNat_lt, UInt8.reduceToNat]
  constructor
  · intro h
    split_ifs at h with hc hn
    have hv := code_ofNat (n := a.toNat % 8 * 262144 + low6 b * 4096 + low6 d * 64 + low6 e)
      (by omega)
    rw [Option.some.inj h] at hv
    rcases encode_cases c with ⟨h1, _⟩ | ⟨h1, h2, _⟩ | ⟨h1, h2, h3, _⟩ | ⟨h1, h2, he⟩
    · omega
    · omega
    · omega
    · rw [he]
      simp only [List.cons.injEq, and_true]
      exact ⟨(byte_eq_ofNat (by omega)).mpr (by omega), (byte_eq_ofNat (by omega)).mpr (by omega),
        (byte_eq_ofNat (by omega)).mpr (by omega), (byte_eq_ofNat (by omega)).mpr (by omega)⟩
  · intro h
    rcases encode_cases c with ⟨_, he⟩ | ⟨_, _, he⟩ | ⟨_, _, _, he⟩ | ⟨h1, h2, he⟩ <;> rw [he] at h <;>
      simp only [List.cons.injEq, reduceCtorEq, and_false, and_true] at h
    rw [byte_eq_ofNat (by omega), byte_eq_ofNat (by omega), byte_eq_ofNat (by omega),
      byte_eq_ofNat (by omega)] at h
    rw [if_pos (by omega), if_neg (by omega), ofNat_eq (c := c) (by omega)]

private theorem pair?_eq_none {a b : UInt8} (h : 0xE0 ≤ a.toNat) : pair? a b = none := by
  have ha : ¬ a.toNat < 0xE0 := by omega
  simp [pair?, UInt8.lt_iff_toNat_lt, ha]

private theorem triple?_eq_none {a b d : UInt8} (h : 0xF0 ≤ a.toNat) : triple? a b d = none := by
  have ha : ¬ a.toNat < 0xF0 := by omega
  simp [triple?, UInt8.lt_iff_toNat_lt, ha]

/-- A character in front of a text is read as such. -/
theorem runes_encode (c : Char) (t : Bytes) :
    runes (String.utf8EncodeChar c ++ t) = .point c :: runes t := by
  have lead {n : Nat} (hl : 0x80 ≤ n) (hu : n < 256) : ¬ UInt8.ofNat n < 0x80 := by
    rw [UInt8.lt_iff_toNat_lt, UInt8.toNat_ofNat', Nat.mod_eq_of_lt hu]
    change ¬ n < 128
    omega
  rcases encode_cases c with ⟨h, he⟩ | ⟨h1, h2, he⟩ | ⟨h1, h2, h3, he⟩ | ⟨h1, h2, he⟩
  · have hs := encode_eq_single.mp he
    rw [he, List.singleton_append, runes.eq_def]
    simp only [if_pos hs.1, hs.2]
  · have hp := pair?_eq_some.mpr he
    rw [he, List.cons_append, runes.eq_def]
    simp only [List.cons_append, List.nil_append, hp]
    rw [if_neg (lead (by omega) (by omega))]
  · have ht := triple?_eq_some.mpr he
    have hn : (UInt8.ofNat (c.val.toNat / 4096 + 0xE0)).toNat = c.val.toNat / 4096 + 0xE0 := by
      rw [UInt8.toNat_ofNat', Nat.mod_eq_of_lt (by omega)]
    rw [he, List.cons_append, runes.eq_def]
    simp only [List.cons_append, List.nil_append, ht]
    rw [if_neg (lead (by omega) (by omega)), pair?_eq_none (by omega)]
  · have hq := quad?_eq_some.mpr he
    have hn : (UInt8.ofNat (c.val.toNat / 262144 + 0xF0)).toNat = c.val.toNat / 262144 + 0xF0 := by
      rw [UInt8.toNat_ofNat', Nat.mod_eq_of_lt (by omega)]
    rw [he, List.cons_append, runes.eq_def]
    simp only [List.cons_append, List.nil_append, hq]
    rw [if_neg (lead (by omega) (by omega)), pair?_eq_none (by omega), triple?_eq_none (by omega)]

theorem runes_ascii {a : UInt8} (h : a < 0x80) (t : Bytes) :
    runes (a :: t) = .point (Char.ofNat a.toNat) :: runes t := by
  have := runes_encode (Char.ofNat a.toNat) t
  rwa [encode_eq_single.mpr ⟨h, rfl⟩] at this

/-- The runes of a text of ASCII characters. -/
theorem runes_of_ascii {t : Bytes} (h : ∀ b ∈ t, b < 0x80) :
    runes t = t.map fun b => .point (Char.ofNat b.toNat) := by
  induction t with
  | nil => rfl
  | cons a t ih =>
    rw [runes_ascii (h a List.mem_cons_self), ih fun b hb => h b (List.mem_cons_of_mem _ hb),
      List.map_cons]

def Malformed (t : Bytes) : Prop := ∀ c : Char, ¬ String.utf8EncodeChar c <+: t

theorem Malformed.of_prefix {s t : Bytes} (h : Malformed t) (hs : s <+: t) : Malformed s :=
  fun c hc => h c (hc.trans hs)

/-- A byte that starts no character is read alone. -/
theorem runes_malformed {a : UInt8} {t : Bytes} (h : Malformed (a :: t)) :
    runes (a :: t) = .stray a :: runes t := by
  have ha : ¬ a < 0x80 := fun ha =>
    h (Char.ofNat a.toNat) ⟨t, by rw [encode_eq_single.mpr ⟨ha, rfl⟩, List.singleton_append]⟩
  rw [runes.eq_def]
  simp only [if_neg ha]
  cases t with
  | nil => rfl
  | cons b t₁ =>
    have hp : pair? a b = none := Option.eq_none_iff_forall_ne_some.mpr fun c hc =>
      h c ⟨t₁, by rw [pair?_eq_some.mp hc]; rfl⟩
    simp only [hp]
    cases t₁ with
    | nil => rfl
    | cons d t₂ =>
      have ht : triple? a b d = none := Option.eq_none_iff_forall_ne_some.mpr fun c hc =>
        h c ⟨t₂, by rw [triple?_eq_some.mp hc]; rfl⟩
      simp only [ht]
      cases t₂ with
      | nil => rfl
      | cons e t₃ =>
        have hq : quad? a b d e = none := Option.eq_none_iff_forall_ne_some.mpr fun c hc =>
          h c ⟨t₃, by rw [quad?_eq_some.mp hc]; rfl⟩
        simp only [hq]

/-- A text starts with a character, or with a byte that starts none. -/
theorem exists_first_rune {t : Bytes} (h : t ≠ []) :
    (∃ c rest, t = String.utf8EncodeChar c ++ rest) ∨ ∃ a rest, t = a :: rest ∧ Malformed t := by
  by_cases hm : Malformed t
  · obtain ⟨a, rest, rfl⟩ := List.exists_cons_of_ne_nil h
    exact .inr ⟨a, rest, rfl, hm⟩
  · simp only [Malformed, not_forall, not_not] at hm
    obtain ⟨c, rest, rfl⟩ := hm
    exact .inl ⟨c, rest, rfl⟩

/-- Induction along the runes of a text. -/
theorem runes_induction {P : Bytes → Prop} (nil : P [])
    (point : ∀ c t, P t → P (String.utf8EncodeChar c ++ t))
    (stray : ∀ a t, Malformed (a :: t) → P t → P (a :: t)) (t : Bytes) : P t := by
  induction hn : t.length using Nat.strong_induction_on generalizing t with
  | _ n ih =>
    by_cases ht : t = []
    · exact ht ▸ nil
    · rcases exists_first_rune ht with ⟨c, rest, rfl⟩ | ⟨a, rest, rfl, hm⟩
      · refine point c rest (ih rest.length ?_ rest rfl)
        have := List.length_pos_iff.mpr (String.utf8EncodeChar_ne_nil (c := c))
        rw [List.length_append] at hn
        omega
      · exact stray a rest hm (ih rest.length (by rw [← hn]; simp) rest rfl)

/-- Reading loses no byte. -/
@[simp] theorem ofRunes_runes (t : Bytes) : ofRunes (runes t) = t := by
  induction t using runes_induction with
  | nil => rfl
  | point c t ih => rw [runes_encode, ofRunes, List.flatMap_cons, ← ofRunes, ih]; rfl
  | stray a t hm ih => rw [runes_malformed hm, ofRunes, List.flatMap_cons, ← ofRunes, ih]; rfl

@[simp] theorem ofRunes_append (rs ss : List Rune) : ofRunes (rs ++ ss) = ofRunes rs ++ ofRunes ss :=
  List.flatMap_append

@[simp] theorem ofRunes_cons (r : Rune) (rs : List Rune) : ofRunes (r :: rs) = r.bytes ++ ofRunes rs :=
  List.flatMap_cons

/-- Well-formed text is the encoding of its characters. -/
theorem ofChars_chars {t : Bytes} (h : isUtf8 t = true) : ofChars (chars t) = t := by
  have hall (rs : List Rune) (hrs : rs.all Rune.isPoint = true) :
      ofChars (rs.map Rune.char) = ofRunes rs := by
    induction rs with
    | nil => rfl
    | cons r rs ih =>
      rw [List.all_cons, Bool.and_eq_true] at hrs
      cases r with
      | stray b => cases hrs.1
      | point c =>
        rw [ofRunes_cons, ← ih hrs.2]
        rfl
  rw [chars, hall _ h, ofRunes_runes]

/-- The first runes of a text are the runes of the bytes they cover, and so are the others. -/
theorem runes_ofRunes_parts (t : Bytes) {rs ss : List Rune} (h : runes t = rs ++ ss) :
    runes (ofRunes rs) = rs ∧ runes (ofRunes ss) = ss := by
  induction t using runes_induction generalizing rs with
  | nil =>
    obtain ⟨rfl, rfl⟩ := List.append_eq_nil_iff.mp h.symm
    exact ⟨rfl, rfl⟩
  | point c t ih =>
    cases rs with
    | nil => exact ⟨rfl, by rw [← List.nil_append ss, ← h, ofRunes_runes]⟩
    | cons r rs =>
      rw [runes_encode, List.cons_append, List.cons.injEq] at h
      obtain ⟨rfl, h⟩ := h
      have ht := ih h
      exact ⟨by rw [ofRunes_cons, Rune.bytes, runes_encode, ht.1], ht.2⟩
  | stray a t hm ih =>
    cases rs with
    | nil => exact ⟨rfl, by rw [← List.nil_append ss, ← h, ofRunes_runes]⟩
    | cons r rs =>
      rw [runes_malformed hm, List.cons_append, List.cons.injEq] at h
      obtain ⟨rfl, h⟩ := h
      have ht := ih h
      have hp : a :: ofRunes rs <+: a :: t := by
        rw [← ofRunes_runes t, h, ofRunes_append]
        exact ⟨ofRunes ss, rfl⟩
      exact ⟨by rw [ofRunes_cons, Rune.bytes, List.singleton_append,
        runes_malformed (hm.of_prefix hp), ht.1], ht.2⟩

/-- No character takes in bytes from before and after a place where one may begin. -/
theorem Malformed.append {a : UInt8} {s t : Bytes} (h : Malformed (a :: s))
    (ht : ∀ b ∈ t.head?, isTail b = false) : Malformed (a :: (s ++ t)) := by
  intro c hc
  have hs : a :: s <+: a :: (s ++ t) := ⟨t, rfl⟩
  rcases List.prefix_or_prefix_of_prefix hc hs with hshort | ⟨u, hu⟩
  · exact h c hshort
  · cases u with
    | nil => exact h c ⟨[], by rw [← hu, List.append_nil, List.append_nil]⟩
    | cons b u =>
      have hb : isTail b = false := by
        rw [← hu, ← List.cons_append, List.prefix_append_right_inj] at hc
        obtain ⟨v, rfl⟩ := hc
        exact ht b rfl
      have htail := isTail_of_mem_tail (c := c) (b := b) (by rw [← hu]; simp)
      rw [hb] at htail
      cases htail

/-- A text is read in two parts where a character may begin. -/
theorem runes_append_start {t : Bytes} (ht : ∀ b ∈ t.head?, isTail b = false) (s : Bytes) :
    runes (s ++ t) = runes s ++ runes t := by
  induction s using runes_induction with
  | nil => rfl
  | point c s ih => rw [List.append_assoc, runes_encode, runes_encode, ih, List.cons_append]
  | stray a s hm ih =>
    rw [List.cons_append, runes_malformed (hm.append ht), runes_malformed hm, ih, List.cons_append]

/-- A text is read in two parts where ASCII text begins. -/
theorem runes_append {t : Bytes} (ht : ∀ b ∈ t.head?, b < 0x80) (s : Bytes) :
    runes (s ++ t) = runes s ++ runes t := by
  refine runes_append_start (fun b hb => ?_) s
  have hlow := ht b hb
  simp [isTail, UInt8.not_le.mpr hlow]

/-- Characters behind a text are read behind it. -/
theorem runes_append_chars (s : Bytes) (cs : List Char) :
    runes (s ++ ofChars cs) = runes s ++ cs.map .point := by
  induction cs generalizing s with
  | nil => simp [ofChars]
  | cons c cs ih =>
    have hhead : ∀ b ∈ (ofChars (c :: cs)).head?, isTail b = false := by
      rw [ofChars, List.flatMap_cons, List.head?_append_of_ne_nil _ String.utf8EncodeChar_ne_nil]
      exact isTail_head c
    rw [runes_append_start hhead, ofChars, List.flatMap_cons, runes_encode]
    exact congrArg (runes s ++ .point c :: ·) (ih [])

/-- An ASCII character separates what is read before it from what is read behind it. -/
theorem runes_append_ascii {b : UInt8} (hb : b < 0x80) (before after : Bytes) :
    runes (before ++ b :: after) =
      runes before ++ .point (Char.ofNat b.toNat) :: runes after := by
  rw [runes_append (by simpa using hb), runes_ascii hb]

end Bytes

end CallAssist
