import CallAssist.Call.Resolution
import CallAssist.Proofs.Call.Grammar

/-! A cursor that moves to the right inside a call. The call stays the same, and the commas that are
passed outside quotes come on top of those before. -/

namespace CallAssist

namespace CallContext

/-- Whether a text ends inside quotes, given whether it starts inside them. -/
def quotedAfter (quoted : Bool) (t : Bytes) : Bool := t.foldl (fun q b => q ^^ isQuote b) quoted

theorem quotedAfter_eq (quoted : Bool) (t : Bytes) :
    quotedAfter quoted t = (quoted ^^ decide (t.countP isQuote % 2 = 1)) := by
  unfold quotedAfter
  induction t generalizing quoted with
  | nil => simp
  | cons b t ih =>
    rw [List.foldl_cons, ih, Bool.xor_assoc, List.countP_cons]
    congr 1
    cases isQuote b with
    | false => simp
    | true =>
      rcases Nat.mod_two_eq_zero_or_one (t.countP isQuote) with h | h
      · simp [Nat.add_mod, h]
      · simp [Nat.add_mod, h]

/-- What is counted in a text depends on the text before it by the quotes alone. -/
theorem commasFrom_append (quoted : Bool) (s t : Bytes) :
    commasFrom quoted (s ++ t) = commasFrom quoted s + commasFrom (quotedAfter quoted s) t := by
  induction s generalizing quoted with
  | nil => simp [commasFrom, quotedAfter]
  | cons b s ih =>
    have hstep : quotedAfter quoted (b :: s) = quotedAfter (quoted ^^ isQuote b) s := rfl
    rw [List.cons_append, commasFrom, commasFrom, hstep]
    by_cases hquote : isQuote b = true
    · simp [hquote, ih]
    · by_cases hcomma : (b == 0x2C && !quoted) = true
      · simp only [hquote, hcomma, if_true, Bool.false_eq_true, if_false, Bool.xor_false, ih]
        omega
      · simp [hquote, hcomma, ih]

/-- Outside quotes every comma counts as long as no quote comes. -/
theorem commasFrom_unquoted {t : Bytes} (h : ∀ b ∈ t, isQuote b = false) :
    commasFrom false t = t.count 0x2C := by
  induction t with
  | nil => rfl
  | cons b t ih =>
    obtain ⟨hb, ht⟩ := List.forall_mem_cons.mp h
    rw [commasFrom, hb, List.count_cons, ih ht]
    by_cases hcomma : b = 0x2C
    · simp [hcomma]
    · simp [hcomma]

/-- A text without a parenthesis behind another only makes the arguments longer. -/
theorem ofText?_append {passed : Bytes} (h : 0x28 ∉ passed) (t : Bytes) :
    ofText? (t ++ passed) = (ofText? t).map fun c => ⟨c.name, c.args ++ passed⟩ := by
  by_cases ht : (0x28 : UInt8) ∈ t
  · obtain ⟨before, args, rfl, hargs⟩ := Bytes.exists_last ht
    have hboth : 0x28 ∉ args ++ passed := by simp [hargs, h]
    rw [List.append_assoc, List.cons_append, ofText?, ofText?, Bytes.cutLast_append hboth,
      Bytes.cutLast_append hargs]
    rfl
  · have hboth : 0x28 ∉ t ++ passed := by simp [ht, h]
    rw [ofText?_eq_none.mpr hboth, ofText?_eq_none.mpr ht, Option.map_none]

theorem at?_moved {line : Bytes} {o₁ o₂ : Nat} (horder : o₁ ≤ o₂)
    (hopen : 0x28 ∉ (line.take o₂).drop o₁) :
    at? line o₂ = (at? line o₁).map fun c => ⟨c.name, c.args ++ (line.take o₂).drop o₁⟩ := by
  have hsplit : line.take o₂ = line.take o₁ ++ (line.take o₂).drop o₁ := by
    conv_lhs => rw [← List.take_append_drop o₁ (line.take o₂)]
    rw [List.take_take, Nat.min_eq_left horder]
  have happend := ofText?_append hopen (line.take o₁)
  rwa [← hsplit] at happend

end CallContext

def Resolution.advance (r : Resolution) (n : Nat) : Resolution :=
  { r with activeParameter := r.activeParameter + n }

namespace Catalog

theorem select_append (c : Catalog) (name args passed : Bytes) :
    c.select name (args ++ passed) = (c.select name args).map fun r =>
      r.advance (CallContext.commasFrom (CallContext.quotedAfter false args) passed) := by
  unfold select
  cases c.index? name with
  | none => rfl
  | some i =>
    cases hf : c.at? i with
    | none => simp [hf]
    | some f => simp [hf, Resolution.advance, CallContext.activeParameter,
        CallContext.commasFrom_append]

/-- A cursor that passes no parenthesis stays in its call, so many arguments further on as there
are commas on the way that count. -/
theorem exists_resolve_eq_advance (c : Catalog) {line : Bytes} {o₁ o₂ : Nat} (horder : o₁ ≤ o₂)
    (hopen : 0x28 ∉ (line.take o₂).drop o₁) :
    ∃ n, c.resolve line o₂ = (c.resolve line o₁).map (·.advance n) ∧
      n ≤ ((line.take o₂).drop o₁).count 0x2C ∧
      ∀ before args, line.take o₁ = before ++ 0x28 :: args → 0x28 ∉ args →
        args.countP CallContext.isQuote % 2 = 0 →
        (∀ b ∈ (line.take o₂).drop o₁, CallContext.isQuote b = false) →
        n = ((line.take o₂).drop o₁).count 0x2C := by
  unfold resolve
  rw [CallContext.at?_moved horder hopen]
  cases hat : CallContext.at? line o₁ with
  | none =>
    refine ⟨0, rfl, Nat.zero_le _, ?_⟩
    intro before args htext
    have hnone : 0x28 ∉ line.take o₁ := CallContext.ofText?_eq_none.mp hat
    rw [htext] at hnone
    simp at hnone
  | some context =>
    refine ⟨_, c.select_append context.name context.args _, CallContext.commasFrom_le_count _ _, ?_⟩
    intro before args htext hargs heven hplain
    have hat' : some context = CallContext.ofText? (before ++ 0x28 :: args) := by
      rw [← htext]
      exact hat.symm
    rw [CallContext.ofText?, Bytes.cutLast_append hargs] at hat'
    obtain rfl := Option.some.inj hat'
    have houtside : CallContext.quotedAfter false args = false := by
      rw [CallContext.quotedAfter_eq, heven]
      rfl
    rw [houtside, CallContext.commasFrom_unquoted hplain]

/-- A cursor that moves to the right without passing a parenthesis stands in a known call if and
only if it did before, and then in the same one. The active parameter does not fall and grows by no
more than the commas that are passed; by all of them, if the cursor was outside quotes and passes
none. -/
theorem resolve_moved_right (c : Catalog) (line : Bytes) {o₁ o₂ : Nat} (horder : o₁ ≤ o₂)
    (hopen : 0x28 ∉ (line.take o₂).drop o₁) :
    let passed := (line.take o₂).drop o₁
    ((c.resolve line o₁).isSome = true ↔ (c.resolve line o₂).isSome = true) ∧
    ∀ r₁ r₂, c.resolve line o₁ = some r₁ → c.resolve line o₂ = some r₂ →
      r₂.function = r₁.function ∧ r₂.index = r₁.index ∧
      r₁.activeParameter ≤ r₂.activeParameter ∧
      r₂.activeParameter ≤ r₁.activeParameter + passed.count 0x2C ∧
      ∀ before args, line.take o₁ = before ++ 0x28 :: args → 0x28 ∉ args →
        args.countP CallContext.isQuote % 2 = 0 →
        (∀ b ∈ passed, CallContext.isQuote b = false) →
        r₂.activeParameter = r₁.activeParameter + passed.count 0x2C := by
  intro passed
  obtain ⟨n, hmoved, hle, hall⟩ := c.exists_resolve_eq_advance horder hopen
  rw [hmoved]
  refine ⟨by rw [Option.isSome_map], ?_⟩
  intro r₁ r₂ h₁ h₂
  rw [h₁] at h₂
  obtain rfl := Option.some.inj h₂
  refine ⟨rfl, rfl, Nat.le_add_right _ n, Nat.add_le_add_left hle _, ?_⟩
  intro before args htext hargs heven hplain
  exact congrArg (r₁.activeParameter + ·) (hall before args htext hargs heven hplain)

/-- Two commas behind a quoted one: the cursor goes from the first argument to the third. -/
theorem resolve_moved_right_quoted :
    let beep : Function := ⟨utf8 "beep", [utf8 "hz", utf8 "ms"], []⟩
    let c : Catalog := ⟨[beep], [(utf8 "beep", 0)]⟩
    let line := utf8 "beep(\"a, b\", 2, 3)"
    (line.take 16).drop 11 = utf8 ", 2, " ∧ c.resolve line 11 = some ⟨beep, 0, 0⟩ ∧
      ∃ r, c.resolve line 16 = some r ∧ r.function = beep ∧ r.index = 0 ∧
        r.activeParameter = 2 := by
  intro beep c line
  have hpassed : (line.take 16).drop 11 = utf8 ", 2, " := by decide +kernel
  have hfirst : c.resolve line (11 : Nat) = some ⟨beep, 0, 0⟩ := by decide +kernel
  have hopen : 0x28 ∉ (line.take 16).drop 11 := by decide +kernel
  obtain ⟨hsome, hmoved⟩ := resolve_moved_right c line (by decide : 11 ≤ 16) hopen
  rw [hfirst] at hsome
  obtain ⟨r, hr⟩ := Option.isSome_iff_exists.mp (hsome.mp rfl)
  obtain ⟨hfunction, hindex, _, _, hcommas⟩ := hmoved _ r hfirst hr
  have hactive := hcommas (utf8 "beep") (utf8 "\"a, b\"") (by decide +kernel) (by decide +kernel)
    (by decide +kernel) (by decide +kernel)
  rw [hpassed] at hactive
  exact ⟨hpassed, hfirst, r, hr, hfunction, hindex, hactive⟩

end Catalog

end CallAssist
