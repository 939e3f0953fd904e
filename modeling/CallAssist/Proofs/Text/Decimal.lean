import CallAssist.Text.Integer
import Mathlib.Data.List.Infix
import Mathlib.Tactic.IntervalCases

/-! Numbers written in decimal and read again. -/

namespace CallAssist

namespace Bytes

def digitByte (d : Nat) : UInt8 := (0x30 + d).toUInt8

private theorem toUInt8_digitChar {d : Nat} (h : d < 10) :
    (Nat.digitChar d).toNat.toUInt8 = digitByte d := by
  interval_cases d <;> rfl

theorem ofNat_of_lt {n : Nat} (h : n < 10) : ofNat n = [digitByte n] := by
  rw [ofNat, Nat.toDigits_of_lt_base h, List.map_singleton, toUInt8_digitChar h]

theorem ofNat_of_le {n : Nat} (h : 10 ≤ n) : ofNat n = ofNat (n / 10) ++ [digitByte (n % 10)] := by
  rw [ofNat, Nat.toDigits_of_base_le (by omega) h, List.map_append, List.map_singleton,
    toUInt8_digitChar (Nat.mod_lt n (by omega)), ofNat]

/-- Induction along the digits of a number. -/
theorem ofNat_induction {P : Nat → Prop} (digit : ∀ d < 10, P d)
    (step : ∀ n, 10 ≤ n → P (n / 10) → P n) (n : Nat) : P n := by
  induction n using Nat.strong_induction_on with
  | _ n ih =>
    by_cases h : n < 10
    · exact digit n h
    · exact step n (by omega) (ih (n / 10) (by omega))

theorem digitValue?_digitByte {d : Nat} (h : d < 10) : digitValue? (digitByte d) = some d := by
  interval_cases d <;> rfl

theorem isDigit_digitByte {d : Nat} (h : d < 10) : isDigit (digitByte d) = true := by
  interval_cases d <;> rfl

theorem ofNat_ne_nil (n : Nat) : ofNat n ≠ [] := by
  induction n using ofNat_induction with
  | digit d h => rw [ofNat_of_lt h]; exact List.cons_ne_nil _ _
  | step n h ih => rw [ofNat_of_le h]; simp

theorem isDigit_of_mem_ofNat (n : Nat) : ∀ b ∈ ofNat n, isDigit b = true := by
  induction n using ofNat_induction with
  | digit d h =>
    rw [ofNat_of_lt h]
    simpa using isDigit_digitByte h
  | step n h ih =>
    rw [ofNat_of_le h]
    intro b hb
    rcases List.mem_append.mp hb with hb | hb
    · exact ih b hb
    · rw [List.mem_singleton.mp hb]
      exact isDigit_digitByte (Nat.mod_lt n (by omega))

end Bytes

namespace Integer

theorem digits_append (base bound : Nat) (loose : Bool) (n : Nat) (s t : Bytes) :
    digits base bound loose n (s ++ t) =
      digits base bound loose n s >>= fun k => digits base bound loose k t := by
  induction s generalizing n with
  | nil => rfl
  | cons b s ih =>
    rw [List.cons_append, digits, digits]
    split
    · exact ih n
    · split
      · rfl
      · split
        · rfl
        · split
          · rfl
          · exact ih _

theorem digits_ofNat {bound n : Nat} (h : n ≤ bound) :
    digits 10 bound false 0 (Bytes.ofNat n) = .ok n := by
  have step {k d : Nat} (hd : d < 10) (hk : k * 10 + d ≤ bound) :
      digits 10 bound false k [Bytes.digitByte d] = .ok (k * 10 + d) := by
    have h1 : ¬ 10 ≤ d := by omega
    have h2 : ¬ bound < k * 10 + d := by omega
    simp [digits, Bytes.digitValue?_digitByte hd, h1, h2]
  induction n using Bytes.ofNat_induction with
  | digit d hd =>
    rw [Bytes.ofNat_of_lt hd, step hd (by omega), Nat.zero_mul, Nat.zero_add]
  | step n hn ih =>
    rw [Bytes.ofNat_of_le hn, digits_append, ih (by omega)]
    have := step (k := n / 10) (Nat.mod_lt n (by omega)) (by omega)
    rw [show n / 10 * 10 + n % 10 = n by omega] at this
    exact this

private theorem sign_of_digit {b : UInt8} {t : Bytes} (h : Bytes.isDigit b = true) :
    sign (b :: t) = (false, b :: t) := by
  unfold sign
  split
  next heq =>
    obtain ⟨rfl, rfl⟩ := List.cons.inj heq
    cases h
  next heq =>
    obtain ⟨rfl, rfl⟩ := List.cons.inj heq
    cases h
  next => rfl

private theorem decimalNat_ofNat {n : Nat} (h : n ≤ wordMax) :
    decimalNat (Bytes.ofNat n) = .ok n := by
  have he : ¬ (Bytes.ofNat n).isEmpty = true := by simpa using Bytes.ofNat_ne_nil n
  unfold decimalNat
  rw [if_neg he, digits_ofNat h]

/-- A number that fits 64 bits with a sign is read back from its decimal digits. -/
theorem decimal_ofNat {n : Nat} (h : n < 0x8000000000000000) :
    decimal (Bytes.ofNat n) = .ok (n : Int) := by
  have hs : sign (Bytes.ofNat n) = (false, Bytes.ofNat n) := by
    obtain ⟨b, t, hb⟩ := List.exists_cons_of_ne_nil (Bytes.ofNat_ne_nil n)
    rw [hb, sign_of_digit (Bytes.isDigit_of_mem_ofNat n b (by simp [hb]))]
  simp only [decimal, hs, decimalNat_ofNat (show n ≤ wordMax by rw [wordMax]; omega)]
  simp [bind, Except.bind, signed, h]

/-- The same with a sign in front of a negative number. -/
theorem decimal_ofInt {n : Int} (hl : -0x8000000000000000 ≤ n) (hu : n < 0x8000000000000000) :
    decimal (Bytes.ofInt n) = .ok n := by
  cases n with
  | ofNat n => exact decimal_ofNat (by simpa using hu)
  | negSucc n =>
    have hn : n + 1 ≤ 0x8000000000000000 := by omega
    have hs : sign (Bytes.ofInt (.negSucc n)) = (true, Bytes.ofNat (n + 1)) := rfl
    simp only [decimal, hs, decimalNat_ofNat (show n + 1 ≤ wordMax by rw [wordMax]; omega)]
    simp only [bind, Except.bind, signed, if_true, if_pos hn]
    rfl

end Integer

end CallAssist
