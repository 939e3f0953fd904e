import CallAssist.Proofs.Yaml.Cursor
import CallAssist.Yaml.Scanner

/-! The queue of a scanner. Which tokens wait and for how long depends on the keys that may still
turn up, but not what is handed out in the end: the tokens that the steps put in, in their order. -/

namespace CallAssist

namespace Yaml

namespace Scanner

/-- A scanner in flow collections, or in front of them, that no key can bring down. -/
structure Calm (depth : Nat) (s : Scanner) : Prop where
  flow : s.flow = depth
  indent : s.indent = -1
  levels : s.keys.length = depth + 1
  free : ∀ p ∈ s.keys, p.required = false
  unended : .streamEnd ∉ s.queue

/-- With so much fuel the scanner hands out these tokens and comes to its end. -/
def Emits (n : Nat) (s : Scanner) (ts : List Token) : Prop :=
  ∀ fuel done, n ≤ fuel → run fuel done s = ts.reverse ++ done

/-- From any state of a kind, the tokens that wait are handed out and then `ts`. Of those that wait,
`hold` are not yet settled and stand at the beginning of `ts` in their final place. -/
def Scans (hold : List Token) (P : Scanner → Prop) (n : Nat) (ts : List Token) : Prop :=
  ∀ s q, P s → s.queue = q ++ hold → Emits (s.queue.length + n) s (q ++ ts)

/-- A kind of calm state that handing out a token does not leave. -/
structure Steady (P : Scanner → Prop) : Prop where
  calm : ∀ {s}, P s → ∃ depth, s.Calm depth
  hand : ∀ {s t q}, P s → s.queue = t :: q → P (s.hand q)

theorem Emits.mono {n m : Nat} {s : Scanner} {ts : List Token} (h : Emits n s ts) (hm : n ≤ m) :
    Emits m s ts := fun fuel done hf => h fuel done (hm.trans hf)

theorem Scans.mono {hold ts : List Token} {P : Scanner → Prop} {n m : Nat}
    (h : Scans hold P n ts) (hm : n ≤ m) : Scans hold P m ts :=
  fun s q hp hq => (h s q hp hq).mono (Nat.add_le_add_left hm _)

theorem Calm.hand {depth : Nat} {s : Scanner} (h : s.Calm depth) {t : Token} {q : List Token}
    (hq : s.queue = t :: q) : (s.hand q).Calm depth where
  flow := h.flow
  indent := h.indent
  levels := h.levels
  free := h.free
  unended := by
    have := h.unended
    rw [hq] at this
    exact fun hm => this (List.mem_cons_of_mem t hm)

private theorem isReady_eq_some {s : Scanner} (h : ∀ p ∈ s.keys, p.required = false) :
    s.isReady = some false ∨ s.isReady = some true ∧ 3 ≤ s.queue.length := by
  unfold isReady
  split
  · exact .inl rfl
  · next hl =>
    have hl : 3 ≤ s.queue.length := Nat.le_of_not_lt hl
    split
    · exact .inr ⟨rfl, hl⟩
    · split
      · exact .inr ⟨rfl, hl⟩
      · next p hp =>
        have hp : p.required = false := h p (List.mem_of_getElem? hp)
        split
        · exact .inr ⟨rfl, hl⟩
        · split
          · exact .inl rfl
          · rw [hp]
            exact .inr ⟨rfl, hl⟩

section Run

variable {s s' : Scanner} {n : Nat} {ts : List Token}

private theorem Emits.of_step (hr : s.isReady = some false) (hs : s.step = some s')
    (h : Emits n s' ts) : Emits (n + 1) s ts := by
  intro fuel done hf
  obtain ⟨fuel, rfl⟩ := Nat.exists_eq_add_one.mpr (Nat.zero_lt_of_lt hf)
  rw [run, hr]
  simp only [hs]
  exact h fuel done (Nat.le_of_succ_le_succ hf)

private theorem Emits.of_hand {t : Token} {q : List Token} (hr : s.isReady = some true)
    (hq : s.queue = t :: q) (ht : t ≠ .streamEnd) (h : Emits n (s.hand q) ts) :
    Emits (n + 1) s (t :: ts) := by
  intro fuel done hf
  obtain ⟨fuel, rfl⟩ := Nat.exists_eq_add_one.mpr (Nat.zero_lt_of_lt hf)
  rw [run, hr]
  simp only [hq, beq_iff_eq, ht, if_false]
  rw [h fuel (t :: done) (Nat.le_of_succ_le_succ hf)]
  simp

private theorem Emits.of_end {q : List Token} (hr : s.isReady = some true)
    (hq : s.queue = .streamEnd :: q) : Emits 1 s [.streamEnd] := by
  intro fuel done hf
  obtain ⟨fuel, rfl⟩ := Nat.exists_eq_add_one.mpr (Nat.zero_lt_of_lt hf)
  rw [run, hr]
  simp [hq]

end Run

/-- What one step puts in comes out behind what waits already. Before that step any number of tokens
may be handed out, but none of those that are not settled. -/
theorem Scans.step {P Q : Scanner → Prop} (hP : Steady P) {hold hold' ts : List Token} {n : Nat}
    (hQ : Scans hold' Q n ts) (new : List Token) (hhold : hold.length ≤ 2)
    (hnew : new.length + hold'.length ≤ 3)
    (hstep : ∀ s q, P s → s.queue = q ++ hold →
      ∃ s', s.step = some s' ∧ Q s' ∧ s'.queue = q ++ new ++ hold') :
    Scans hold P (n + 4) (new ++ ts) := by
  intro s q
  induction q generalizing s with
  | nil =>
    intro hp hq
    obtain ⟨depth, hcalm⟩ := hP.calm hp
    obtain ⟨s', hs', hq', hqueue⟩ := hstep s [] hp hq
    have hemits := hQ s' _ hq' hqueue
    rcases isReady_eq_some hcalm.free with hr | ⟨_, hl⟩
    · refine (Emits.of_step hr hs' hemits).mono ?_
      simp only [hqueue, hq, List.length_append, List.nil_append]
      omega
    · rw [hq, List.nil_append] at hl
      omega
  | cons t q ih =>
    intro hp hq
    obtain ⟨depth, hcalm⟩ := hP.calm hp
    rcases isReady_eq_some hcalm.free with hr | ⟨hr, _⟩
    · obtain ⟨s', hs', hq', hqueue⟩ := hstep s _ hp hq
      have hemits := hQ s' _ hq' hqueue
      rw [List.append_assoc] at hemits
      refine (Emits.of_step hr hs' hemits).mono ?_
      simp only [hqueue, hq, List.length_append]
      omega
    · have ht : t ≠ .streamEnd := by
        intro ht
        refine hcalm.unended ?_
        rw [hq, ht]
        exact List.mem_cons_self
      have hemits := ih (s.hand (q ++ hold)) (hP.hand hp hq) rfl
      refine (Emits.of_hand hr hq ht hemits).mono ?_
      simp only [Scanner.hand, hq, List.length_append, List.cons_append, List.length_cons]
      omega

/-- A scanner that has met the end of its text, with no collection open. -/
structure Ended (s : Scanner) : Prop where
  cursor : s.cursor.AtEnd
  flow : s.flow = 0
  indent : s.indent = -1
  key : ∃ p, s.keys = [p] ∧ p.possible = false ∧ p.required = false

/-- Blocks are closed only where some are open. -/
theorem unrollTo_eq {s : Scanner} (h : s.indent = -1) {column : Int} (hc : -1 ≤ column) :
    s.unrollTo column = s := by
  rw [unrollTo, unroll, if_pos]
  simp [h, hc]

/-- A key that is not required can be given up. -/
theorem dropKey_spec {s : Scanner} (h : ∀ p ∈ s.keys, p.required = false) :
    ∃ ks ws, s.dropKey = some { s with keys := ks, waiting := ws } ∧ ks.length = s.keys.length ∧
      (∀ p ∈ ks, p.required = false) ∧ ∀ p ∈ ks.head?, p.possible = false := by
  cases hk : s.keys with
  | nil =>
    have hd : s.dropKey = some s := by simp only [dropKey, hk]
    exact ⟨s.keys, s.waiting, hd, by rw [hk], by simp [hk], by simp [hk]⟩
  | cons p ks =>
    rw [hk] at h
    obtain ⟨hp, hks⟩ := List.forall_mem_cons.mp h
    by_cases hpossible : p.possible = true
    · refine ⟨{ p with possible := false } :: ks, withoutNumber p.number s.waiting, ?_, ?_, ?_, ?_⟩
      · simp [dropKey, hk, hpossible, hp, setKey, release]
      · rfl
      · exact List.forall_mem_cons.mpr ⟨hp, hks⟩
      · simp
    · have hd : s.dropKey = some s := by simp [dropKey, hk, hpossible]
      refine ⟨s.keys, s.waiting, hd, by rw [hk], by rwa [hk], ?_⟩
      simpa [hk] using hpossible

/-- The end of the text is met once and for all. -/
theorem endStream_spec {s : Scanner} (hc : s.cursor.AtEnd) (hf : s.flow = 0) (hi : s.indent = -1)
    (hl : s.keys.length = 1) (hfree : ∀ p ∈ s.keys, p.required = false) :
    ∃ s', s.endStream = some s' ∧ s'.Ended ∧ s'.queue = s.queue ++ [.streamEnd] := by
  have hend (c : Cursor) (hc : c.AtEnd) :
      ∃ s', (({ s with cursor := c }.unrollTo (-1)).dropKey.bind fun s =>
        some { s.push .streamEnd with keyAllowed := false }) = some s' ∧ s'.Ended ∧
        s'.queue = s.queue ++ [.streamEnd] := by
    rw [unrollTo_eq (s := { s with cursor := c }) hi (Int.le_refl _)]
    obtain ⟨ks, ws, hd, hl', hfree', hp⟩ := dropKey_spec (s := { s with cursor := c }) hfree
    obtain ⟨p, rfl⟩ := List.length_eq_one_iff.mp (hl'.trans hl)
    rw [hd]
    exact ⟨_, rfl, ⟨hc, hf, hi, p, rfl, hp p rfl, hfree' p (List.mem_singleton_self p)⟩, rfl⟩
  unfold endStream
  refine hend _ ?_
  split
  · exact hc
  · exact ⟨hc.ahead, hc.behind, hc.unmarked, hc.bound⟩

theorem Ended.step {s : Scanner} (h : s.Ended) :
    ∃ s', s.step = some s' ∧ s'.Ended ∧ s'.queue = s.queue ++ [.streamEnd] := by
  obtain ⟨c₁, hc₁, he₁⟩ := h.cursor.need 1
  obtain ⟨c₂, hc₂, he₂⟩ := he₁.skip fun x => x == ' ' || (x == '\t' && (s.inFlow || !s.keyAllowed))
  obtain ⟨c₃, hc₃, he₃⟩ := he₂.need 4
  have hnext : toNextToken s.cursor.bound s = some { s with cursor := c₂ } := by
    have hfuel : s.cursor.bound = s.cursor.bound - 1 + 1 := by
      have := h.cursor.bound
      omega
    rw [hfuel, toNextToken]
    simp [hc₁, he₁.unmarked, hc₂, Cursor.head?, Cursor.isAtBreak, he₂.ahead]
  rw [Scanner.step, hnext]
  simp only [Option.bind_eq_bind, Option.bind_some]
  rw [unrollTo_eq (s := { s with cursor := c₂ }) h.indent (by omega)]
  simp only [hc₃, Option.bind_some, token, he₃.ahead]
  obtain ⟨p, hk, _, hp⟩ := h.key
  exact endStream_spec (s := { s with cursor := c₃ }) he₃ h.flow h.indent (by simp [hk])
    (by simpa [hk] using hp)

/-- Then all that waits is handed out, and the end of the stream. -/
theorem Ended.emits {n : Nat} : ∀ {s : Scanner} {q : List Token} {j : Nat},
    s.Ended → s.queue = q ++ List.replicate (j + 1) .streamEnd → .streamEnd ∉ q →
      q.length + (2 - j) < n → Emits n s (q ++ [.streamEnd]) := by
  induction n with
  | zero =>
    intro _ _ _ _ _ _ hn
    omega
  | succ n ih =>
    intro s q j h hq hunended hn
    have hlength : s.queue.length = q.length + (j + 1) := by simp [hq]
    by_cases hl : s.queue.length < 3
    · have hr : s.isReady = some false := if_pos hl
      obtain ⟨s', hs', he', hq'⟩ := h.step
      refine Emits.of_step hr hs' (ih he' ?_ hunended (j := j + 1) (by omega))
      rw [hq', hq, List.append_assoc, ← List.replicate_succ']
    · have hr : s.isReady = some true := by
        obtain ⟨p, hk, hp, _⟩ := h.key
        rw [isReady, if_neg hl, hk, h.flow]
        split
        · rfl
        · simp [hp]
      cases q with
      | nil => exact (Emits.of_end hr hq).mono (Nat.succ_le_succ (Nat.zero_le n))
      | cons t q =>
        obtain ⟨ht, hunended⟩ := not_or.mp (mt List.mem_cons.mpr hunended)
        have he : (s.hand (q ++ List.replicate (j + 1) .streamEnd)).Ended :=
          ⟨h.cursor, h.flow, h.indent, h.key⟩
        refine Emits.of_hand hr hq (Ne.symm ht) (ih he rfl hunended ?_)
        rw [List.length_cons] at hn
        omega

end Scanner

end Yaml

end CallAssist
