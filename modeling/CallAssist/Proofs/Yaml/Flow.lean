import CallAssist.Proofs.Text.Cuts
import CallAssist.Proofs.Yaml.Queue
import CallAssist.Proofs.Yaml.Scalars

/-! The tokens of flow collections on one line: texts in double quotes and nulls, in brackets and
braces, one blank behind each comma and colon. -/

namespace CallAssist

namespace Yaml

def isSolid (x : Char) : Bool := !(isBlank x || isBreak x || x == '#')

theorem Closes.solid {cs : List Char} (h : Closes cs) : ∀ x ∈ cs.head?, isSolid x = true := by
  intro x hx
  rcases h x hx with rfl | rfl | rfl
  all_goals rfl

namespace Scanner

/-- A calm state with so many blanks and then some text in front of it. -/
structure At (depth : Nat) (allowed : Bool) (i k : Nat) (cs : List Char) (s : Scanner) : Prop where
  calm : s.Calm depth
  allowed : s.keyAllowed = allowed
  cursor : s.cursor.Sees i 0 (List.replicate k ' ' ++ cs)
  solid : ∀ x ∈ cs.head?, isSolid x = true
  near : k < commentReach

/-- A calm state with a token right in front of it, of which four characters are known. -/
structure Facing (depth : Nat) (allowed : Bool) (i : Nat) (cs : List Char) (s : Scanner) :
    Prop where
  calm : s.Calm depth
  allowed : s.keyAllowed = allowed
  cursor : s.cursor.Sees i 4 cs

variable {depth i k n : Nat} {allowed : Bool} {cs : List Char} {s : Scanner}

theorem at_steady : Steady (At depth allowed i k cs) where
  calm h := ⟨_, h.calm⟩
  hand h hq := ⟨h.calm.hand hq, h.allowed, h.cursor, h.solid, h.near⟩

private theorem isSolid_parts {x : Char} (h : isSolid x = true) :
    isBlank x = false ∧ isBreak x = false ∧ x ≠ '#' := by
  simpa [isSolid, and_assoc] using h

private theorem At.step (h : At depth allowed i k cs s) :
    ∃ s', s.step = s'.token ∧ Facing depth allowed (i + k) cs s' ∧ s'.queue = s.queue ∧
      s'.keys = s.keys ∧ s'.handed = s.handed := by
  obtain ⟨c₁, hc₁, hs₁⟩ := h.cursor.need 1
  have hrest : ∀ x ∈ cs.head?,
      (x == ' ' || (x == '\t' && (s.inFlow || !s.keyAllowed))) = false := by
    intro x hx
    have := (isSolid_parts (h.solid x hx)).1
    simp_all [isBlank]
  have hrun : ∀ x ∈ List.replicate k ' ',
      (x == ' ' || (x == '\t' && (s.inFlow || !s.keyAllowed))) = true := by
    intro x hx
    rw [List.eq_of_mem_replicate hx]
    rfl
  obtain ⟨c₂, hc₂, hs₂⟩ := Cursor.Sees.skip hrun hrest hs₁
  obtain ⟨c₃, hc₃, hs₃⟩ := hs₂.need 4
  have hhead : c₂.head? ≠ some '#' ∧ c₂.isAtBreak = false := by
    rw [Cursor.isAtBreak, hs₂.head?_eq]
    cases hx : cs.head? with
    | none => exact ⟨by simp, rfl⟩
    | some x =>
      obtain ⟨_, hbreak, hhash⟩ := isSolid_parts (h.solid x hx)
      exact ⟨by simpa using hhash, hbreak⟩
  have hnext : toNextToken s.cursor.bound s = some { s with cursor := c₂ } := by
    have hfuel : s.cursor.bound = s.cursor.bound - 1 + 1 := by
      have := h.cursor.bound
      omega
    rw [hfuel, toNextToken]
    simp [hc₁, hs₁.unmarked.1, hc₂, hhead]
  refine ⟨{ s with cursor := c₃ }, ?_, ⟨⟨h.calm.flow, h.calm.indent, h.calm.levels, h.calm.free,
    h.calm.unended⟩, h.allowed, by simpa using hs₃⟩, rfl, rfl, rfl⟩
  rw [Scanner.step, hnext]
  simp only [Option.bind_eq_bind, Option.bind_some]
  rw [unrollTo_eq (s := { s with cursor := c₂ }) h.calm.indent (by omega)]
  simp only [hc₃, Option.bind_some]

private theorem getElem?_gap (k : Nat) (cs : List Char) :
    (List.replicate k ' ' ++ cs)[k]? = cs.head? := by
  rw [List.getElem?_append_right (by simp), List.head?_eq_getElem?]
  simp

private theorem blanksAt_spec (hsolid : ∀ x ∈ cs.head?, isSolid x = true) :
    ∀ {fuel m n : Nat} {c : Cursor}, c.Sees i n (List.replicate k ' ' ++ cs) → m ≤ k →
      k < m + fuel → ∃ c', blanksAt fuel m c = some (k, c') ∧
        c'.Sees i (k + 1) (List.replicate k ' ' ++ cs) := by
  intro fuel
  induction fuel with
  | zero =>
    intro m n c _ hm hk
    omega
  | succ fuel ih =>
    intro m n c h hm hk
    obtain ⟨c', hc', hs'⟩ := h.need (m + 1)
    have hm' := hs'.getElem?_ahead (Nat.lt_succ_self m)
    rw [blanksAt]
    simp only [hc', Option.bind_eq_bind, Option.bind_some, hm']
    rcases Nat.lt_or_eq_of_le hm with hlt | rfl
    · have hx : (List.replicate k ' ' ++ cs)[m]? = some ' ' := by
        rw [List.getElem?_append_left (by simpa using hlt)]
        simp [hlt]
      rw [hx]
      exact ih hs' hlt (by omega)
    · have hblank : (cs.head?.map isBlank).getD false = false := by
        cases hc : cs.head? with
        | none => rfl
        | some x => exact (isSolid_parts (hsolid x hc)).1
      rw [getElem?_gap, hblank]
      exact ⟨c', rfl, hs'⟩

private theorem skipTrailing_spec (hcalm : s.Calm depth)
    (h : s.cursor.Sees i n (List.replicate k ' ' ++ cs))
    (hsolid : ∀ x ∈ cs.head?, isSolid x = true) (hk : k < commentReach) :
    ∃ c', s.skipTrailing = some { s with cursor := c' } ∧
      At depth s.keyAllowed i k cs { s with cursor := c' } := by
  obtain ⟨c', hc', hs'⟩ := blanksAt_spec hsolid h (Nat.zero_le k) (Nat.lt_add_left 0 hk)
  have hhash : c'.ahead[k]? ≠ some '#' := by
    rw [hs'.getElem?_ahead (Nat.lt_succ_self k), getElem?_gap]
    intro hc
    exact (isSolid_parts (hsolid _ hc)).2.2 rfl
  refine ⟨c', ?_, ?_⟩
  · rw [skipTrailing]
    simp [hc', hhash]
  · exact ⟨⟨hcalm.flow, hcalm.indent, hcalm.levels, hcalm.free, hcalm.unended⟩, rfl,
      hs'.mono (Nat.zero_le _), hsolid, hk⟩

private theorem settles (hcalm : s.Calm depth) (ha : s.keyAllowed = allowed)
    (h : s.cursor.Sees i n (List.replicate k ' ' ++ cs))
    (hsolid : ∀ x ∈ cs.head?, isSolid x = true) (hk : k < commentReach) :
    ∃ s', s.skipTrailing = some s' ∧ At depth allowed i k cs s' ∧ s'.queue = s.queue := by
  obtain ⟨c', hskip, hat⟩ := skipTrailing_spec hcalm h hsolid hk
  exact ⟨_, hskip, ha ▸ hat, rfl⟩

private theorem saveKey_spec (h : s.Calm depth) :
    ∃ ks ws, s.saveKey = some { s with keys := ks, waiting := ws } ∧ ks.length = depth + 1 ∧
      (∀ p ∈ ks, p.required = false) ∧
      (s.keyAllowed = true → ks.head? = some (s.keyHere true false)) := by
  rw [saveKey]
  by_cases ha : s.keyAllowed = true
  · obtain ⟨ks, ws, hd, hl, hfree, _⟩ := dropKey_spec h.free
    have hrequired : (!s.inFlow && s.indent == (s.cursor.column : Int)) = false := by
      have : ¬ (-1 : Int) = s.cursor.column := by omega
      simp [h.indent, this]
    rw [if_pos ha, hrequired, hd]
    refine ⟨s.keyHere true false :: ks.tail, _, rfl, ?_, ?_, fun _ => rfl⟩
    · rw [h.levels] at hl
      rw [List.length_cons, List.length_tail, hl]
      rfl
    · exact List.forall_mem_cons.mpr ⟨rfl, fun p hp => hfree p (List.mem_of_mem_tail hp)⟩
  · exact ⟨s.keys, s.waiting, if_neg ha, h.levels, h.free, fun ha' => absurd ha' ha⟩

section Tokens

variable {x : Char} {t : Token}

private theorem Facing.token_open
    (hx : x = '[' ∧ t = .flowSequenceStart ∨ x = '\x7b' ∧ t = .flowMappingStart)
    (h : Facing depth allowed i (x :: (List.replicate k ' ' ++ cs)) s) (hd : depth < maxNesting)
    (hsolid : ∀ x ∈ cs.head?, isSolid x = true) (hk : k < commentReach) :
    ∃ s', s.token = some s' ∧ At (depth + 1) true (i + 1) k cs s' ∧ s'.queue = s.queue ++ [t] := by
  obtain ⟨u, hu⟩ := h.cursor.ahead_cons
  have htoken : s.token = s.flowStart t := by
    rcases hx with ⟨rfl, rfl⟩ | ⟨rfl, rfl⟩
    all_goals simp [token, hu, Cursor.startsMark_of_ne]
  obtain ⟨ks, ws, hsave, hl, hfree, _⟩ := saveKey_spec h.calm
  have ht : t ≠ .streamEnd := by
    rcases hx with ⟨_, rfl⟩ | ⟨_, rfl⟩
    all_goals simp
  rw [htoken, flowStart, hsave]
  simp only [Option.bind_eq_bind, Option.bind_some, h.calm.flow, Nat.not_le.mpr hd, if_false]
  refine settles ⟨rfl, h.calm.indent, ?_, ?_, ?_⟩ rfl h.cursor.advance hsolid hk
  · simp [indicator, push, hl]
  · exact List.forall_mem_cons.mpr ⟨rfl, hfree⟩
  · simpa [indicator, push, Ne.symm ht] using h.calm.unended

private theorem Facing.token_close
    (hx : x = ']' ∧ t = .flowSequenceEnd ∨ x = '\x7d' ∧ t = .flowMappingEnd)
    (h : Facing (depth + 1) allowed i (x :: (List.replicate k ' ' ++ cs)) s)
    (hsolid : ∀ x ∈ cs.head?, isSolid x = true) (hk : k < commentReach) :
    ∃ s', s.token = some s' ∧ At depth false (i + 1) k cs s' ∧ s'.queue = s.queue ++ [t] := by
  obtain ⟨u, hu⟩ := h.cursor.ahead_cons
  have htoken : s.token = s.flowEnd t := by
    rcases hx with ⟨rfl, rfl⟩ | ⟨rfl, rfl⟩
    all_goals simp [token, hu, Cursor.startsMark_of_ne]
  obtain ⟨ks, ws, hdrop, hl, hfree, _⟩ := dropKey_spec h.calm.free
  have ht : t ≠ .streamEnd := by
    rcases hx with ⟨_, rfl⟩ | ⟨_, rfl⟩
    all_goals simp
  have hflow : inFlow { s with keys := ks, waiting := ws } = true := by
    simp [inFlow, h.calm.flow]
  rw [htoken, flowEnd, hdrop]
  simp only [Option.bind_eq_bind, Option.bind_some, leaveFlow, hflow, if_true]
  refine settles ⟨?_, h.calm.indent, ?_, ?_, ?_⟩ rfl h.cursor.advance hsolid hk
  · simp [indicator, push, h.calm.flow]
  · simp [indicator, push, hl, h.calm.levels]
  · exact fun p hp => hfree p (List.mem_of_mem_tail hp)
  · simpa [indicator, push, release, Ne.symm ht] using h.calm.unended

private theorem Facing.token_comma
    (h : Facing depth allowed i (',' :: (List.replicate k ' ' ++ cs)) s)
    (hsolid : ∀ x ∈ cs.head?, isSolid x = true) (hk : k < commentReach) :
    ∃ s', s.token = some s' ∧ At depth true (i + 1) k cs s' ∧
      s'.queue = s.queue ++ [.flowEntry] := by
  obtain ⟨u, hu⟩ := h.cursor.ahead_cons
  have htoken : s.token = s.flowEntry := by
    simp [token, hu, Cursor.startsMark_of_ne]
  obtain ⟨ks, ws, hdrop, hl, hfree, _⟩ := dropKey_spec h.calm.free
  rw [htoken, flowEntry, hdrop]
  simp only [Option.bind_eq_bind, Option.bind_some]
  refine settles ⟨h.calm.flow, h.calm.indent, ?_, hfree, ?_⟩ rfl h.cursor.advance hsolid hk
  · simp [indicator, push, hl, h.calm.levels]
  · simpa [indicator, push] using h.calm.unended

private theorem Facing.token_null
    (h : Facing (depth + 1) allowed i (['n', 'u', 'l', 'l'] ++ cs) s) (hcs : Closes cs) :
    ∃ s', s.token = some s' ∧ At (depth + 1) false (i + 4) 0 cs s' ∧
      s'.queue = s.queue ++ [.scalar true (utf8 "null")] := by
  obtain ⟨u, hu⟩ := h.cursor.ahead_cons
  have hflow : s.inFlow = true := by simp [inFlow, h.calm.flow]
  have htoken : s.token = s.plainScalar := by
    have hstart : startsPlain s.inFlow 'n' u = true := rfl
    simp [token, hu, Cursor.startsMark_of_ne, hstart]
  obtain ⟨ks, ws, hsave, hl, hfree, _⟩ := saveKey_spec h.calm
  obtain ⟨c, hplain, hc⟩ := h.cursor.plain_null (s.indent + 1).toNat hcs
  have hflow' : inFlow { s with keys := ks, waiting := ws } = true := hflow
  rw [htoken, plainScalar, hsave]
  simp only [Option.bind_eq_bind, Option.bind_some, hflow', hplain, Bool.false_eq_true, if_false]
  refine settles (k := 0) ⟨h.calm.flow, h.calm.indent, hl, hfree, ?_⟩ rfl hc hcs.solid (by decide)
  simpa [push] using h.calm.unended

private theorem Facing.token_quoted {body : List Char}
    (h : Facing depth allowed i ('"' :: (body ++ '"' :: cs)) s)
    (hbody : ∀ x ∈ body, isQuotable x = true) (hsolid : ∀ x ∈ cs.head?, isSolid x = true) :
    ∃ s', s.token = some s' ∧ At depth false (i + body.length + 2) 0 cs s' ∧
      s'.queue = s.queue ++ [.scalar false (Bytes.ofChars body)] ∧
      (allowed = true → ∃ p, s'.keys.head? = some p ∧ p.possible = true ∧
        p.number + 1 = s'.count ∧ p.line = 0 ∧ p.index = i) := by
  obtain ⟨u, hu⟩ := h.cursor.ahead_cons
  have htoken : s.token = s.quoted '"' := by
    simp [token, hu, Cursor.startsMark_of_ne]
  obtain ⟨ks, ws, hsave, hl, hfree, hkey⟩ := saveKey_spec h.calm
  obtain ⟨c, hquoted, hc⟩ := h.cursor.quotedScalar hbody
  rw [htoken, quoted, hsave]
  simp only [Option.bind_eq_bind, Option.bind_some, hquoted]
  obtain ⟨c', hskip, hat⟩ := skipTrailing_spec (k := 0) (s := {
    s.push (.scalar false (Bytes.ofChars body)) with
      keys := ks, waiting := ws, keyAllowed := false, cursor := c })
    ⟨h.calm.flow, h.calm.indent, hl, hfree, by simpa [push] using h.calm.unended⟩ hc hsolid
    (by decide)
  refine ⟨_, hskip, hat, rfl, fun ha => ⟨_, hkey (h.allowed.trans ha), rfl, ?_, ?_, ?_⟩⟩
  · simp [keyHere, count, push, Nat.add_assoc]
  · exact h.cursor.line
  · exact h.cursor.index

private theorem Facing.token_text {body : List Char}
    (h : Facing depth allowed i ('"' :: (body ++ '"' :: cs)) s)
    (hbody : ∀ x ∈ body, isQuotable x = true) (hsolid : ∀ x ∈ cs.head?, isSolid x = true) :
    ∃ s', s.token = some s' ∧ At depth false (i + body.length + 2) 0 cs s' ∧
      s'.queue = s.queue ++ [.scalar false (Bytes.ofChars body)] := by
  obtain ⟨s', hs', hat, hqueue, _⟩ := h.token_quoted hbody hsolid
  exact ⟨s', hs', hat, hqueue⟩

def KeyWaits (i : Nat) (s : Scanner) : Prop :=
  ∃ p, s.keys.head? = some p ∧ p.possible = true ∧ p.number + 1 = s.count ∧ p.line = 0 ∧
    i ≤ p.index + 1024

theorem KeyWaits.congr {s' : Scanner} (h : KeyWaits i s) (hkeys : s'.keys = s.keys)
    (hcount : s'.count = s.count) : KeyWaits i s' := by
  obtain ⟨p, hp, hpossible, hnumber, hplace⟩ := h
  exact ⟨p, hkeys ▸ hp, hpossible, hcount ▸ hnumber, hplace⟩

private theorem count_hand {q : List Token} (hq : s.queue = t :: q) :
    (s.hand q).count = s.count := by
  simp only [count, hand, hq, List.length_cons]
  omega

private def BehindKey (depth i : Nat) (cs : List Char) (s : Scanner) : Prop :=
  At depth false i 0 cs s ∧ KeyWaits i s

private theorem behindKey_steady : Steady (BehindKey depth i cs) where
  calm h := ⟨_, h.1.calm⟩
  hand h hq := ⟨at_steady.hand h.1 hq, h.2.congr rfl (count_hand hq)⟩

private theorem insertIdx_last {α : Type} (q : List α) (a b : α) :
    (q ++ [b]).insertIdx q.length a = q ++ [a, b] := by
  induction q with
  | nil => rfl
  | cons x q ih => simp [ih]

private theorem Facing.token_colon {q : List Token}
    (h : Facing (depth + 1) allowed i (':' :: (List.replicate k ' ' ++ cs)) s)
    (hkey : KeyWaits i s) (hq : s.queue = q ++ [t])
    (hsolid : ∀ x ∈ cs.head?, isSolid x = true) (hk : k < commentReach) :
    ∃ s', s.token = some s' ∧ At (depth + 1) false (i + 1) k cs s' ∧
      s'.queue = q ++ [.key, t, .value] := by
  obtain ⟨u, hu⟩ := h.cursor.ahead_cons
  obtain ⟨p, hp, hpossible, hnumber, hline, hindex⟩ := hkey
  obtain ⟨ks, hks⟩ := List.head?_eq_some_iff.mp hp
  have hflow : s.inFlow = true := by simp [inFlow, h.calm.flow]
  have htoken : s.token = s.valueMark := by
    simp [token, hu, Cursor.startsMark_of_ne, hflow]
  have hfresh : s.isFresh p = true := by
    simp [isFresh, h.cursor.line, h.cursor.index, hindex]
  have hnumber : p.number = s.handed + q.length := by
    rw [count, hq, List.length_append, List.length_singleton] at hnumber
    omega
  obtain ⟨s₁, hs₁⟩ : ∃ s₁ : Scanner,
      s₁ = { s with keys := { p with possible := false } :: ks, queue := q ++ [.key, t] } :=
    ⟨_, rfl⟩
  have hinsert : (s.setKey { p with possible := false }).insert p.number .key = s₁ := by
    have hlate : ¬ p.number < s.handed := by omega
    have hplace : p.number - s.handed = q.length := by omega
    simp only [hs₁, insert, setKey, hlate, if_false, hplace, hq, insertIdx_last, hks,
      List.tail_cons]
  have hcalm : s₁.Calm (depth + 1) := by
    have hlevels := h.calm.levels
    have hfree := h.calm.free
    have hunended := h.calm.unended
    rw [hks] at hlevels hfree
    rw [hq] at hunended
    obtain ⟨hrequired, hfree⟩ := List.forall_mem_cons.mp hfree
    subst hs₁
    exact ⟨h.calm.flow, h.calm.indent, hlevels, List.forall_mem_cons.mpr ⟨hrequired, hfree⟩,
      by simpa using hunended⟩
  have hflow₁ : s₁.inFlow = true := by simp [inFlow, hcalm.flow]
  have hcursor : s₁.cursor = s.cursor := by rw [hs₁]
  have hqueue : s₁.queue = q ++ [.key, t] := by rw [hs₁]
  rw [htoken, valueMark]
  simp only [hks, hpossible, Bool.not_true, Bool.false_eq_true, if_false, hfresh, if_true, hinsert,
    roll, hflow₁, Bool.true_or, Option.bind_eq_bind, Option.bind_some]
  obtain ⟨s', hs', hat, hqueue'⟩ := settles
    (s := indicator { s₁.release p.number with keyAllowed := false } .value)
    ⟨hcalm.flow, hcalm.indent, hcalm.levels, hcalm.free,
      by simpa [indicator, push, release] using hcalm.unended⟩ rfl
    (by simpa only [indicator, push, release, hcursor] using h.cursor.advance) hsolid hk
  refine ⟨s', hs', hat, ?_⟩
  rw [hqueue']
  simp [indicator, push, release, hqueue]

end Tokens

private theorem scans_token {depth' j k' : Nat} {allowed' : Bool} {cs' : List Char} {t : Token}
    {ts : List Token} (h : ∀ s, Facing depth allowed (i + k) cs s →
      ∃ s', s.token = some s' ∧ At depth' allowed' j k' cs' s' ∧ s'.queue = s.queue ++ [t])
    (hnext : ∀ i, Scans [] (At depth' allowed' i k' cs') n ts) :
    Scans [] (At depth allowed i k cs) (n + 4) (t :: ts) := by
  refine (hnext j).step at_steady [t] (Nat.zero_le 2) (by simp) ?_
  intro s q hat hq
  obtain ⟨s₁, hstep, hfacing, hqueue, _⟩ := hat.step
  obtain ⟨s', hs', hat', hqueue'⟩ := h s₁ hfacing
  exact ⟨s', hstep.trans hs', hat', by rw [hqueue', hqueue, hq, List.append_nil, List.append_nil]⟩

/-- A text comes out as some tokens, whatever follows it that ends a value. -/
structure Lexes (depth : Nat) (allowed : Bool) (text : List Char) (ts : List Token) : Prop where
  solid : ∃ x ∈ text.head?, isSolid x = true
  scans : ∀ {i k n : Nat} {rest : List Char} {ts' : List Token}, k < commentReach → Closes rest →
    (∀ i, Scans [] (At depth false i 0 rest) n ts') →
    Scans [] (At depth allowed i k (text ++ rest)) (n + 4 * text.length) (ts ++ ts')

theorem Lexes.solid_append {text rest : List Char} {ts : List Token}
    (h : Lexes depth allowed text ts) : ∀ x ∈ (text ++ rest).head?, isSolid x = true := by
  obtain ⟨x, hx, hsolid⟩ := h.solid
  intro y hy
  rw [List.head?_append, hx, Option.some_or] at hy
  rwa [← Option.some.inj hy]

theorem lexes_null :
    Lexes (depth + 1) allowed ['n', 'u', 'l', 'l'] [.scalar true (utf8 "null")] where
  solid := ⟨'n', rfl, rfl⟩
  scans _ hrest hnext :=
    (scans_token (fun _ hs => hs.token_null hrest) hnext).mono (Nat.add_le_add_left (by decide) _)

theorem lexes_quoted {body : List Char} (hbody : ∀ x ∈ body, isQuotable x = true) :
    Lexes depth allowed ('"' :: (body ++ ['"'])) [.scalar false (Bytes.ofChars body)] where
  solid := ⟨'"', rfl, rfl⟩
  scans _ hrest hnext := by
    rw [List.cons_append, List.append_assoc, List.singleton_append]
    refine Scans.mono (scans_token (fun _ hs => hs.token_text hbody hrest.solid) hnext) ?_
    simp only [List.length_cons, List.length_append]
    omega

private theorem scans_key {key : List Char} {ts : List Token}
    (hkey : ∀ x ∈ key, isQuotable x = true) (hlength : key.length + 2 ≤ 1024)
    (hsolid : ∀ x ∈ cs.head?, isSolid x = true)
    (hnext : ∀ i, Scans [] (At (depth + 1) false i 1 cs) n ts) :
    Scans [] (At (depth + 1) true i k ('"' :: (key ++ '"' :: ':' :: ' ' :: cs))) (n + 8)
      (.key :: .scalar false (Bytes.ofChars key) :: .value :: ts) := by
  have hcolon (j : Nat) : Scans [.scalar false (Bytes.ofChars key)]
      (BehindKey (depth + 1) j (':' :: ' ' :: cs)) (n + 4)
      ([.key, .scalar false (Bytes.ofChars key), .value] ++ ts) := by
    refine (hnext (j + 1)).step behindKey_steady _ (by simp) (by simp) ?_
    intro s q h hq
    obtain ⟨s₁, hstep, hfacing, hqueue, hkeys, hhanded⟩ := h.1.step
    have hwaits : KeyWaits j s₁ := h.2.congr hkeys (by rw [count, count, hqueue, hhanded])
    obtain ⟨s', hs', hat, hqueue'⟩ := hfacing.token_colon (k := 1) hwaits (hqueue.trans hq) hsolid
      (by decide)
    exact ⟨s', hstep.trans hs', hat, by rw [hqueue', List.append_nil]⟩
  refine (hcolon (i + k + key.length + 2)).step at_steady [] (Nat.zero_le 2) (by simp) ?_
  intro s q h hq
  obtain ⟨s₁, hstep, hfacing, hqueue, _⟩ := h.step
  have hsolid' : ∀ x ∈ (':' :: ' ' :: cs).head?, isSolid x = true := by
    intro x hx
    rw [← Option.some.inj hx]
    rfl
  obtain ⟨s', hs', hat, hqueue', hwaits⟩ := hfacing.token_quoted hkey hsolid'
  obtain ⟨p, hp, hpossible, hnumber, hline, hindex⟩ := hwaits rfl
  refine ⟨s', hstep.trans hs', ⟨hat, p, hp, hpossible, hnumber, hline, ?_⟩, ?_⟩
  · rw [hindex]
    omega
  · rw [hqueue', hqueue, hq, List.append_nil]

/-- A field of a mapping: a key in quotes and a value. -/
theorem lexes_field {key v : List Char} {ts : List Token} (hkey : ∀ x ∈ key, isQuotable x = true)
    (hlength : key.length + 2 ≤ 1024) (hv : Lexes (depth + 1) false v ts) :
    Lexes (depth + 1) true ('"' :: (key ++ '"' :: ':' :: ' ' :: v))
      (.key :: .scalar false (Bytes.ofChars key) :: .value :: ts) where
  solid := ⟨'"', rfl, rfl⟩
  scans {i k n rest ts'} _ hrest hnext := by
    have hvalue (i : Nat) := hv.scans (i := i) (k := 1) (by decide) hrest hnext
    have hsolid : ∀ x ∈ (v ++ rest).head?, isSolid x = true := hv.solid_append
    have htext : '"' :: (key ++ '"' :: ':' :: ' ' :: v) ++ rest =
        '"' :: (key ++ '"' :: ':' :: ' ' :: (v ++ rest)) := by simp
    rw [htext]
    refine Scans.mono (scans_key hkey hlength hsolid hvalue) ?_
    simp only [List.length_cons, List.length_append]
    omega

private theorem scans_members {α : Type} {ms : List α} {text : α → List Char}
    {toks : α → List Token} (hms : ∀ m ∈ ms, Lexes depth true (text m) (toks m)) {rest : List Char}
    {ts : List Token} (hrest : Closes rest)
    (hnext : ∀ i, Scans [] (At depth false i 0 rest) n ts) :
    Closes (ms.flatMap (fun m => ',' :: ' ' :: text m) ++ rest) ∧
    ∀ i, Scans [] (At depth false i 0 (ms.flatMap (fun m => ',' :: ' ' :: text m) ++ rest))
      (n + 4 * (ms.flatMap fun m => ',' :: ' ' :: text m).length)
      (ms.flatMap (fun m => .flowEntry :: toks m) ++ ts) := by
  induction ms with
  | nil => exact ⟨hrest, hnext⟩
  | cons m ms ih =>
    obtain ⟨hm, hms⟩ := List.forall_mem_cons.mp hms
    obtain ⟨hcloses, ih⟩ := ih hms
    have hmember (i : Nat) := hm.scans (i := i) (k := 1) (by decide) hcloses ih
    refine ⟨?_, fun i => ?_⟩
    · intro x hx
      exact .inl (Option.some.inj hx).symm
    · simp only [List.flatMap_cons, List.cons_append, List.append_assoc]
      refine Scans.mono (scans_token (fun _ hs =>
        hs.token_comma (k := 1) hm.solid_append (by decide)) hmember) ?_
      simp only [List.length_cons, List.length_append]
      omega

/-- The brackets of a sequence or of a mapping, with their tokens. -/
inductive Brackets : Char → Token → Char → Token → Prop where
  | sequence : Brackets '[' .flowSequenceStart ']' .flowSequenceEnd
  | mapping : Brackets '\x7b' .flowMappingStart '\x7d' .flowMappingEnd

/-- A collection of any number of members. -/
theorem lexes_collection {x y : Char} {t u : Token} (hb : Brackets x t y u)
    (hd : depth < maxNesting) {α : Type} {ms : List α} {text : α → List Char}
    {toks : α → List Token} (hms : ∀ m ∈ ms, Lexes (depth + 1) true (text m) (toks m)) :
    Lexes depth allowed (x :: ([',', ' '].intercalate (ms.map text) ++ [y]))
      (t :: ([.flowEntry].intercalate (ms.map toks) ++ [u])) where
  solid := ⟨x, rfl, by cases hb <;> rfl⟩
  scans {i k n rest ts'} _ hrest hnext := by
    have hopen : x = '[' ∧ t = .flowSequenceStart ∨ x = '\x7b' ∧ t = .flowMappingStart := by
      cases hb <;> simp
    have hend : y = ']' ∧ u = .flowSequenceEnd ∨ y = '\x7d' ∧ u = .flowMappingEnd := by
      cases hb <;> simp
    have hcloses : Closes (y :: rest) := by
      intro z hz
      rw [← Option.some.inj hz]
      exact .inr (hend.imp And.left And.left)
    have hclose (allowed : Bool) (i : Nat) :
        Scans [] (At (depth + 1) allowed i 0 (y :: rest)) (n + 4) (u :: ts') :=
      scans_token (fun _ hs => hs.token_close (k := 0) hend hrest.solid (by decide)) hnext
    cases ms with
    | nil =>
      refine Scans.mono (scans_token (fun _ hs =>
        hs.token_open (k := 0) hopen hd hcloses.solid (by decide)) (hclose true)) ?_
      simp
    | cons m ms =>
      obtain ⟨hm, hms⟩ := List.forall_mem_cons.mp hms
      obtain ⟨hcloses', hmore⟩ := scans_members hms hcloses (hclose false)
      have hfirst (i : Nat) := hm.scans (i := i) (k := 0) (by decide) hcloses' hmore
      simp only [List.map_cons, Bytes.intercalate_cons, List.flatMap_map, List.cons_append,
        List.append_assoc, List.nil_append] at hfirst ⊢
      refine Scans.mono (scans_token (fun _ hs =>
        hs.token_open (k := 0) hopen hd hm.solid_append (by decide)) hfirst) ?_
      simp only [List.length_cons, List.length_append]
      omega

private theorem scans_end (i : Nat) : Scans [] (At 0 false i 0 []) 6 [.streamEnd] := by
  let Q (s : Scanner) : Prop := s.Ended ∧ ∃ q, s.queue = q ++ [.streamEnd] ∧ .streamEnd ∉ q
  have hQ : Scans [] Q 2 [] := by
    rintro s q' ⟨hended, q, hq, hunended⟩ hq'
    rw [List.append_nil] at hq' ⊢
    rw [← hq', hq]
    refine hended.emits (j := 0) hq hunended ?_
    simp only [List.length_append, List.length_singleton]
    omega
  refine hQ.step at_steady [.streamEnd] (Nat.zero_le 2) (by simp) ?_
  intro s q h hq
  obtain ⟨s₁, hstep, hfacing, hqueue, _⟩ := h.step
  have htoken : s₁.token = s₁.endStream := by
    simp [token, hfacing.cursor.ahead_nil]
  obtain ⟨s', hs', hended, hqueue'⟩ := endStream_spec hfacing.cursor.atEnd hfacing.calm.flow
    hfacing.calm.indent hfacing.calm.levels hfacing.calm.free
  rw [hqueue, hq, List.append_nil] at hqueue'
  have hunended : .streamEnd ∉ q := by
    have := h.calm.unended
    rwa [hq, List.append_nil] at this
  exact ⟨s', (hstep.trans htoken).trans hs', ⟨hended, q, hqueue', hunended⟩,
    by rw [hqueue', List.append_nil]⟩

/-- The tokens of a printable text are those it comes out as, and the end of the stream. -/
theorem tokens_eq {t : Bytes} {ts : List Token} (hprint : ∀ b ∈ t, isPrintable b = true)
    (h : Lexes 0 true (t.map charOf) ts) : tokens t = ts ++ [.streamEnd] := by
  have hstart : At 0 true 0 0 (t.map charOf ++ []) (Scanner.start t) := by
    refine ⟨⟨rfl, rfl, rfl, ?_, ?_⟩, rfl, ?_, h.solid_append, by decide⟩
    · simp [Scanner.start]
    · simp [Scanner.start]
    · simpa [Scanner.start] using Cursor.sees_ofBytes hprint
  have hcloses : Closes [] := fun x hx => by cases hx
  have hscans := h.scans (i := 0) (k := 0) (by decide) hcloses scans_end
  have hrun := hscans _ [] hstart rfl (6 * t.length + 12) [] (by
    simp only [Scanner.start, List.length_nil, List.length_map]
    omega)
  rw [tokens, hrun]
  simp

end Scanner

end Yaml

end CallAssist
