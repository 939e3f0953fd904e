import CallAssist.Json.Parser
import CallAssist.Json.Text
import CallAssist.Proofs.Text.Decimal
import Mathlib.Data.List.TakeWhile

/-! The spelling of JSON numbers. What is read as a number is one, and it is read whole from any
text in which nothing goes on with it. -/

namespace CallAssist

namespace Json

def IsDigits (ds : Bytes) : Prop := ds ≠ [] ∧ ∀ b ∈ ds, Bytes.isDigit b = true

def IsWholePart (w : Bytes) : Prop := w = [0x30] ∨ IsDigits w ∧ w.head? ≠ some 0x30

def IsFraction (f : Bytes) : Prop := f = [] ∨ ∃ ds, IsDigits ds ∧ f = 0x2E :: ds

def IsExponent (e : Bytes) : Prop :=
  e = [] ∨ ∃ c ds, (c = 0x65 ∨ c = 0x45) ∧ IsDigits ds ∧
    (e = c :: ds ∨ ∃ s, (s = 0x2B ∨ s = 0x2D) ∧ e = c :: s :: ds)

def IsNumber (n : Bytes) : Prop :=
  ∃ minus w f e, (minus = [] ∨ minus = [0x2D]) ∧ IsWholePart w ∧ IsFraction f ∧ IsExponent e ∧
    n = minus ++ w ++ f ++ e

def NoDigit (r : Bytes) : Prop := ∀ b ∈ r.head?, Bytes.isDigit b = false

def EndsNumber (r : Bytes) : Prop :=
  ∀ b ∈ r.head?, Bytes.isDigit b = false ∧ b ≠ 0x2E ∧ b ≠ 0x65 ∧ b ≠ 0x45

theorem EndsNumber.noDigit {r : Bytes} (h : EndsNumber r) : NoDigit r := fun b hb => (h b hb).1

private theorem readDigits_eq_some {t ds r : Bytes} (h : readDigits t = some (ds, r)) :
    IsDigits ds ∧ t = ds ++ r := by
  simp only [readDigits] at h
  split_ifs at h with hne
  cases h
  refine ⟨⟨by simpa using hne, fun b hb => List.mem_takeWhile_imp hb⟩, ?_⟩
  exact List.takeWhile_append_dropWhile.symm

private theorem readDigits_append {ds r : Bytes} (hd : IsDigits ds) (hr : NoDigit r) :
    readDigits (ds ++ r) = some (ds, r) := by
  have ht : (ds ++ r).takeWhile Bytes.isDigit = ds := by
    rw [List.takeWhile_append_of_pos hd.2]
    cases r with
    | nil => simp
    | cons b r => simp [hr b rfl]
  have hw : (ds ++ r).dropWhile Bytes.isDigit = r := by
    rw [List.dropWhile_append_of_pos hd.2]
    cases r with
    | nil => rfl
    | cons b r => simp [hr b rfl]
  simp [readDigits, ht, hw, hd.1]

private theorem isWholePart_of_read {t w r : Bytes} (h : readWhole t = some (w, r)) :
    IsWholePart w := by
  unfold readWhole at h
  split at h
  · cases h
    exact .inl rfl
  · next hz =>
    obtain ⟨hd, rfl⟩ := readDigits_eq_some h
    refine .inr ⟨hd, fun hw => ?_⟩
    obtain ⟨b, w', rfl⟩ := List.exists_cons_of_ne_nil hd.1
    obtain rfl : b = 0x30 := by simpa using hw
    exact hz (w' ++ r) rfl

private theorem readWhole_append {w r : Bytes} (hw : IsWholePart w) (hr : NoDigit r) :
    readWhole (w ++ r) = some (w, r) := by
  rcases hw with rfl | ⟨hd, hz⟩
  · rfl
  · obtain ⟨b, w, rfl⟩ := List.exists_cons_of_ne_nil hd.1
    have hb : b ≠ 0x30 := by
      rintro rfl
      exact hz rfl
    have : readWhole (b :: w ++ r) = readDigits (b :: w ++ r) := by simp [readWhole, hb]
    rw [this, readDigits_append hd hr]

private theorem isFraction_of_read {t f r : Bytes} (h : readFraction t = some (f, r)) :
    IsFraction f := by
  unfold readFraction at h
  split at h
  · obtain ⟨⟨ds, r'⟩, hd, he⟩ := Option.map_eq_some_iff.mp h
    cases he
    exact .inr ⟨ds, (readDigits_eq_some hd).1, rfl⟩
  · cases h
    exact .inl rfl

private theorem readFraction_append {f r : Bytes} (hf : IsFraction f) (hr : NoDigit r)
    (hp : r.head? ≠ some 0x2E) : readFraction (f ++ r) = some (f, r) := by
  rcases hf with rfl | ⟨ds, hd, rfl⟩
  · cases r with
    | nil => rfl
    | cons b r =>
      have hb : b ≠ 0x2E := by simpa using hp
      simp [readFraction, hb]
  · simp [readFraction, readDigits_append hd hr]

private theorem isExponent_of_read {t e r : Bytes} (h : readExponent t = some (e, r)) :
    IsExponent e := by
  unfold readExponent at h
  split at h
  · cases h
    exact .inl rfl
  · next c t =>
    split_ifs at h with hc
    · rw [Bool.or_eq_true, beq_iff_eq, beq_iff_eq] at hc
      split at h
      · cases h
      · next s u =>
        split_ifs at h with hs
        · rw [Bool.or_eq_true, beq_iff_eq, beq_iff_eq] at hs
          obtain ⟨⟨ds, r'⟩, hd, he⟩ := Option.map_eq_some_iff.mp h
          cases he
          exact .inr ⟨c, ds, hc, (readDigits_eq_some hd).1, .inr ⟨s, hs, rfl⟩⟩
        · obtain ⟨⟨ds, r'⟩, hd, he⟩ := Option.map_eq_some_iff.mp h
          cases he
          exact .inr ⟨c, ds, hc, (readDigits_eq_some hd).1, .inl rfl⟩
    · cases h
      exact .inl rfl

private theorem readExponent_append {e r : Bytes} (he : IsExponent e) (hr : EndsNumber r) :
    readExponent (e ++ r) = some (e, r) := by
  rcases he with rfl | ⟨c, ds, hc, hd, rfl | ⟨s, hs, rfl⟩⟩
  · cases r with
    | nil => rfl
    | cons b r =>
      obtain ⟨_, _, h1, h2⟩ := hr b rfl
      simp [readExponent, h1, h2]
  · have hc' : (c == 0x65 || c == 0x45) = true := by simpa using hc
    obtain ⟨d, ds', rfl⟩ := List.exists_cons_of_ne_nil hd.1
    have hs : (d == 0x2B || d == 0x2D) = false := by
      have := hd.2 d List.mem_cons_self
      rw [← Bool.not_eq_true, Bool.or_eq_true, beq_iff_eq, beq_iff_eq]
      rintro (rfl | rfl)
      · cases this
      · cases this
    have := readDigits_append hd hr.noDigit
    simp only [List.cons_append] at this ⊢
    simp [readExponent, hc', hs, this]
  · have hc' : (c == 0x65 || c == 0x45) = true := by simpa using hc
    have hs' : (s == 0x2B || s == 0x2D) = true := by simpa using hs
    simp [readExponent, hc', hs', readDigits_append hd hr.noDigit]

private theorem readNumber_eq (minus t : Bytes)
    (hm : minus = [] ∧ t.head? ≠ some 0x2D ∨ minus = [0x2D]) : readNumber (minus ++ t) = (do
      let (whole, t) ← readWhole t
      let (fraction, t) ← readFraction t
      let (exponent, t) ← readExponent t
      return (minus ++ whole ++ fraction ++ exponent, t)) := by
  rcases hm with ⟨rfl, ht⟩ | rfl
  · cases t with
    | nil => rfl
    | cons b t =>
      have hb : b ≠ 0x2D := by simpa using ht
      simp [readNumber, hb]
  · rfl

/-- What is read as a number is spelled as one. -/
theorem isNumber_of_readNumber {t n r : Bytes} (h : readNumber t = some (n, r)) : IsNumber n := by
  obtain ⟨minus, u, hm, rfl⟩ : ∃ minus u, (minus = [] ∧ u.head? ≠ some 0x2D ∨ minus = [0x2D]) ∧
      t = minus ++ u := by
    by_cases ht : t.head? = some 0x2D
    · obtain ⟨u, rfl⟩ := List.head?_eq_some_iff.mp ht
      exact ⟨[0x2D], u, .inr rfl, rfl⟩
    · exact ⟨[], t, .inl ⟨rfl, ht⟩, rfl⟩
  rw [readNumber_eq minus u hm] at h
  obtain ⟨⟨w, t₁⟩, hw, h⟩ := Option.bind_eq_some_iff.mp h
  obtain ⟨⟨f, t₂⟩, hf, h⟩ := Option.bind_eq_some_iff.mp h
  obtain ⟨⟨e, t₃⟩, he, h⟩ := Option.bind_eq_some_iff.mp h
  cases h
  exact ⟨minus, w, f, e, hm.imp_left And.left, isWholePart_of_read hw, isFraction_of_read hf,
    isExponent_of_read he, rfl⟩

private theorem IsWholePart.head {w : Bytes} (h : IsWholePart w) :
    ∃ b u, w = b :: u ∧ Bytes.isDigit b = true := by
  rcases h with rfl | ⟨hd, _⟩
  · exact ⟨0x30, [], rfl, rfl⟩
  · obtain ⟨b, u, rfl⟩ := List.exists_cons_of_ne_nil hd.1
    exact ⟨b, u, rfl, hd.2 b List.mem_cons_self⟩

/-- A number is read whole where nothing goes on with it. -/
theorem IsNumber.readNumber_append {n r : Bytes} (h : IsNumber n) (hr : EndsNumber r) :
    readNumber (n ++ r) = some (n, r) := by
  obtain ⟨minus, w, f, e, hm, hw, hf, he, rfl⟩ := h
  have hexp : NoDigit (e ++ r) ∧ (e ++ r).head? ≠ some 0x2E := by
    rcases he with rfl | ⟨c, ds, hc, _, he⟩
    · exact ⟨hr.noDigit, fun h => (hr _ h).2.1 rfl⟩
    · have : (e ++ r).head? = some c := by
        rcases he with rfl | ⟨s, _, rfl⟩
        · rfl
        · rfl
      rw [NoDigit, this]
      rcases hc with rfl | rfl
      · exact ⟨by simp [Bytes.isDigit], by decide⟩
      · exact ⟨by simp [Bytes.isDigit], by decide⟩
  have hfrac : NoDigit (f ++ (e ++ r)) := by
    rcases hf with rfl | ⟨ds, _, rfl⟩
    · exact hexp.1
    · intro b hb
      obtain rfl : 0x2E = b := by simpa using hb
      rfl
  have hminus : minus = [] ∧ (w ++ (f ++ (e ++ r))).head? ≠ some 0x2D ∨ minus = [0x2D] := by
    refine hm.imp_left fun h => ⟨h, fun hh => ?_⟩
    obtain ⟨b, u, rfl, hb⟩ := hw.head
    obtain rfl : b = 0x2D := by simpa using hh
    cases hb
  rw [List.append_assoc, List.append_assoc, List.append_assoc, readNumber_eq _ _ hminus,
    readWhole_append hw hfrac]
  simp [readFraction_append hf hexp.1 hexp.2, readExponent_append he hr]

/-- A number starts with a digit or a minus sign. -/
theorem IsNumber.head {n : Bytes} (h : IsNumber n) :
    ∃ b u, n = b :: u ∧ (b = 0x2D ∨ Bytes.isDigit b = true) := by
  obtain ⟨minus, w, f, e, hm, hw, _, _, rfl⟩ := h
  obtain ⟨b, u, rfl, hb⟩ := hw.head
  rcases hm with rfl | rfl
  · exact ⟨b, u ++ f ++ e, rfl, .inr hb⟩
  · exact ⟨0x2D, b :: u ++ f ++ e, rfl, .inl rfl⟩

private theorem isWholePart_ofNat (n : Nat) : IsWholePart (Bytes.ofNat n) := by
  have hd : IsDigits (Bytes.ofNat n) := ⟨Bytes.ofNat_ne_nil n, Bytes.isDigit_of_mem_ofNat n⟩
  by_cases hn : n = 0
  · exact .inl (hn ▸ rfl)
  · refine .inr ⟨hd, ?_⟩
    induction n using Bytes.ofNat_induction with
    | digit d h =>
      rw [Bytes.ofNat_of_lt h]
      interval_cases d
      · contradiction
      all_goals decide
    | step n h ih =>
      have hne := Bytes.ofNat_ne_nil (n / 10)
      rw [Bytes.ofNat_of_le h, List.head?_append_of_ne_nil _ hne]
      exact ih ⟨hne, Bytes.isDigit_of_mem_ofNat _⟩ (by omega)

/-- Integers are spelled as numbers. -/
theorem isNumber_ofInt (n : Int) : IsNumber (Bytes.ofInt n) := by
  cases n with
  | ofNat n => exact ⟨[], _, [], [], .inl rfl, isWholePart_ofNat n, .inl rfl, .inl rfl, by simp; rfl⟩
  | negSucc n =>
    exact ⟨[0x2D], _, [], [], .inr rfl, isWholePart_ofNat (n + 1), .inl rfl, .inl rfl, by simp; rfl⟩

theorem isNumber_ofNat (n : Nat) : IsNumber (Bytes.ofNat n) := isNumber_ofInt n

end Json

end CallAssist
