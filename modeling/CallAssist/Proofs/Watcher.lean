import CallAssist.Watcher
import Mathlib.Data.List.Induction
import Mathlib.Data.List.ReduceOption
import Mathlib.Data.Nat.Find
import Mathlib.Order.Lattice

/-!
What a watch hands on. Whatever comes and in whatever order, a batch holds exactly the tracked files
that changed since the batch before it, so that no change is lost and none is made up.
-/

namespace CallAssist

namespace Bytes

theorem le_total : ∀ s t : Bytes, (le s t || le t s) = true
  | [], _ => by simp [le]
  | _ :: _, [] => by simp [le]
  | a :: s, b :: t => by
    have ih := le_total s t
    by_cases hab : a = b
    · simpa [le, hab] using ih
    · have hlt : a < b ∨ b < a := by
        simp only [UInt8.lt_iff_toNat_lt]
        have hne : a.toNat ≠ b.toNat := fun h => hab (UInt8.toNat_inj.mp h)
        omega
      simpa [le, hab, Ne.symm hab] using hlt

theorem le_trans : ∀ s t u : Bytes, le s t = true → le t u = true → le s u = true
  | [], _, _ => by simp [le]
  | _ :: _, [], _ => by simp [le]
  | _ :: _, _ :: _, [] => by simp [le]
  | a :: s, b :: t, c :: u => by
    have ih := le_trans s t u
    intro hst htu
    simp only [le] at hst htu ⊢
    split at hst <;> split at htu <;> grind

end Bytes

namespace Watcher

variable {w : Watcher} {e : Event} {cwd given p : Bytes} {paths : List Bytes} {es : List Event}
  {i j k : Nat}

def after (w : Watcher) (es : List Event) : Watcher := es.foldl (fun w e => (w.step e).1) w

/-- For each event of a run the batch it leads to, if it does. -/
def handed (w : Watcher) : List Event → List (Option (List Bytes))
  | [] => []
  | e :: es => (w.step e).2.batch :: (w.step e).1.handed es

/-- The batch that the event at a place of a run leads to. -/
def batchAt (w : Watcher) (es : List Event) (i : Nat) : Option (List Bytes) :=
  (w.handed es)[i]?.join

def batches (w : Watcher) (es : List Event) : List (List Bytes) := (w.handed es).reduceOption

/-- A file is known by the last of the given paths that lead to it. -/
def Tracks (cwd : Bytes) (paths : List Bytes) (file given : Bytes) : Prop :=
  ∃ before behind, paths = before ++ given :: behind ∧ Path.absolute cwd given = file ∧
    ∀ p ∈ behind, Path.absolute cwd p ≠ file

/-- An event tells that there may be new content behind a given path. -/
inductive Event.Tells (cwd : Bytes) (paths : List Bytes) : Event → Bytes → Prop where
  | change {path given : Bytes} {what : FileChange}
      (hnews : what.created = true ∨ what.written = true)
      (htracks : Tracks cwd paths (Path.clean path) given) :
    Tells cwd paths (.change path what) given

/-- A batch is the first one after an event, and it has the path. -/
structure Covers (w : Watcher) (es : List Event) (i k : Nat) (given : Bytes) : Prop where
  later : i < k
  mem : ∃ b, w.batchAt es k = some b ∧ given ∈ b
  first : ∀ j, i < j → j < k → w.batchAt es j = none

/-! ### One event -/

/-- The given path of the file that an event tells about. -/
def Event.told? (tracked : List (Bytes × Bytes)) : Event → Option Bytes
  | .change path what => if what.isNews then tracked.lookup (Path.clean path) else none
  | _ => none

/-- What an event can do to a watch, and the batch it can lead to. -/
inductive Does (w : Watcher) : Event → Watcher → Option (List Bytes) → Prop where
  | ended {e : Event} (hended : w.ended = true) : Does w e w none
  | cancel (hended : w.ended = false) : Does w .cancel { w with ended := true } none
  | hand (hended : w.ended = false) (harmed : w.armed = true) :
    Does w .quiet { w with pending := [], armed := false } (some (w.pending.mergeSort Bytes.le))
  | note {e : Event} {given : Bytes} (hended : w.ended = false)
      (htold : e.told? w.tracked = some given) : Does w e (w.note given) none
  | pass {e : Event} (hended : w.ended = false) (hcancel : e ≠ .cancel)
      (hquiet : e = .quiet → w.armed = false) (htold : e.told? w.tracked = none) : Does w e w none

theorem step_does (w : Watcher) (e : Event) : w.Does e (w.step e).1 (w.step e).2.batch := by
  cases hended : w.ended with
  | true =>
    simp only [step, hended, if_true]
    exact .ended hended
  | false =>
    cases e with
    | cancel => simpa [step, hended] using Does.cancel hended
    | trouble t =>
      simp only [step, hended, Bool.false_eq_true, if_false]
      exact .pass hended (by simp) (by simp) rfl
    | quiet =>
      cases harmed : w.armed with
      | true => simpa [step, hended, harmed] using Does.hand hended harmed
      | false =>
        simp only [step, hended, harmed, Bool.false_eq_true, if_false]
        exact .pass hended (by simp) (fun _ => harmed) rfl
    | change path what =>
      simp only [step, hended, Bool.false_eq_true, if_false]
      split
      next given hnews hlookup => exact .note hended (by simp [Event.told?, hnews, hlookup])
      next hnone =>
        refine .pass hended (by simp) (by simp) ?_
        rw [Event.told?]
        split
        next hnews => exact Option.eq_none_iff_forall_ne_some.mpr fun g hg => hnone g hnews hg
        next => rfl

private theorem lookup_iff_tracks {file : Bytes} :
    (ofPaths cwd paths).tracked.lookup file = some given ↔ Tracks cwd paths file given := by
  simp only [ofPaths, List.lookup_eq_some_iff, List.reverse_eq_iff, List.reverse_append,
    List.reverse_cons]
  constructor
  · rintro ⟨front, back, hs, hne⟩
    simp only [List.append_assoc, List.singleton_append, List.map_eq_append_iff,
      List.map_eq_cons_iff] at hs
    obtain ⟨before, _, rfl, -, given', behind, rfl, hgiven, hbehind⟩ := hs
    obtain ⟨rfl, rfl⟩ := Prod.mk.inj hgiven
    refine ⟨before, behind, rfl, rfl, ?_⟩
    intro p hp heq
    have hmem : (Path.absolute cwd p, p) ∈ front := by
      rw [← List.mem_reverse, ← hbehind]
      exact List.mem_map_of_mem hp
    simpa [heq] using hne _ hmem
  · rintro ⟨before, behind, rfl, rfl, hne⟩
    refine ⟨(behind.map fun p => (Path.absolute cwd p, p)).reverse,
      (before.map fun p => (Path.absolute cwd p, p)).reverse, by simp, ?_⟩
    intro q hq
    obtain ⟨p, hp, rfl⟩ := by simpa using hq
    simpa using (hne p hp).symm

theorem told?_iff : e.told? (ofPaths cwd paths).tracked = some given ↔ e.Tells cwd paths given := by
  cases e with
  | change path what =>
    rw [Event.told?, FileChange.isNews]
    constructor
    · intro h
      split at h
      next hnews => exact .change (by simpa using hnews) (lookup_iff_tracks.mp h)
      next => cases h
    · rintro ⟨hnews, htracks⟩
      rw [if_pos (by simpa using hnews)]
      exact lookup_iff_tracks.mpr htracks
  | quiet => exact ⟨nofun, nofun⟩
  | trouble t => exact ⟨nofun, nofun⟩
  | cancel => exact ⟨nofun, nofun⟩

/-! ### Runs -/

@[simp]
theorem length_handed (w : Watcher) (es : List Event) : (w.handed es).length = es.length := by
  induction es generalizing w with
  | nil => rfl
  | cons e es ih => simp [handed, ih]

theorem handed_append (w : Watcher) (xs ys : List Event) :
    w.handed (xs ++ ys) = w.handed xs ++ (w.after xs).handed ys := by
  induction xs generalizing w with
  | nil => rfl
  | cons x xs ih =>
    rw [List.cons_append, handed, handed, ih, List.cons_append]
    rfl

theorem after_append (w : Watcher) (xs ys : List Event) :
    w.after (xs ++ ys) = (w.after xs).after ys := List.foldl_append

theorem batches_append (w : Watcher) (xs ys : List Event) :
    w.batches (xs ++ ys) = w.batches xs ++ (w.after xs).batches ys := by
  rw [batches, handed_append, List.reduceOption_append, batches, batches]

theorem batchAt_append_left (w : Watcher) {xs : List Event} (ys : List Event)
    (hi : i < xs.length) : w.batchAt (xs ++ ys) i = w.batchAt xs i := by
  rw [batchAt, handed_append, List.getElem?_append_left (by simpa using hi), batchAt]

theorem batchAt_of_length_le (w : Watcher) (hi : es.length ≤ i) : w.batchAt es i = none := by
  rw [batchAt, List.getElem?_eq_none (by simpa using hi), Option.join_none]

/-- The batch at a place depends on the events up to it only. -/
theorem batchAt_eq (w : Watcher) (he : es[i]? = some e) :
    w.batchAt es i = ((w.after (es.take i)).step e).2.batch := by
  obtain ⟨hi, -⟩ := List.getElem?_eq_some_iff.mp he
  have hlen : (es.take i).length = i := List.length_take_of_le hi.le
  have hsplit : es = es.take i ++ e :: es.drop (i + 1) := by
    rw [← (List.getElem?_eq_some_iff.mp he).2, List.getElem_cons_drop, List.take_append_drop]
  rw [batchAt]
  conv_lhs => rw [hsplit]
  rw [handed_append, List.getElem?_append_right (by simp [hlen])]
  simp [handed, hlen]

theorem batchAt_take (w : Watcher) (hk : k < i) : w.batchAt (es.take i) k = w.batchAt es k := by
  cases he : es[k]? with
  | none =>
    have hlen : es.length ≤ k := List.getElem?_eq_none_iff.mp he
    rw [List.take_of_length_le (by omega)]
  | some e =>
    have he' : (es.take i)[k]? = some e := by rw [List.getElem?_take_of_lt hk, he]
    rw [batchAt_eq w he, batchAt_eq w he', List.take_take, min_eq_left hk.le]

/-- An event told about a path before the watch ended, and no batch came after it. -/
structure Waits (cwd : Bytes) (paths : List Bytes) (es : List Event) (i : Nat) (given : Bytes) :
    Prop where
  tells : ∃ e, es[i]? = some e ∧ e.Tells cwd paths given
  running : .cancel ∉ es.take i
  none_after : ∀ k, i < k → k < es.length → (ofPaths cwd paths).batchAt es k = none

private theorem batchAt_concat_length (w : Watcher) (es : List Event) (e : Event) :
    w.batchAt (es ++ [e]) es.length = ((w.after es).step e).2.batch := by
  rw [batchAt_eq _ List.getElem?_concat_length, List.take_left]

private theorem waits_concat_of_lt (hi : i < es.length) :
    Waits cwd paths (es ++ [e]) i given ↔ Waits cwd paths es i given ∧
      (((ofPaths cwd paths).after es).step e).2.batch = none := by
  rw [← batchAt_concat_length]
  constructor
  · rintro ⟨htells, hrunning, hnone⟩
    rw [List.getElem?_append_left hi] at htells
    rw [List.take_append_of_le_length hi.le] at hrunning
    refine ⟨⟨htells, hrunning, fun k hik hk => ?_⟩, hnone es.length hi (by simp)⟩
    rw [← batchAt_append_left _ [e] hk]
    exact hnone k hik (by rw [List.length_append]; omega)
  · rintro ⟨⟨htells, hrunning, hnone⟩, hbatch⟩
    rw [← List.getElem?_append_left hi] at htells
    rw [← List.take_append_of_le_length hi.le] at hrunning
    refine ⟨htells, hrunning, fun k hik hk => ?_⟩
    rcases Nat.lt_or_ge k es.length with hlt | hge
    · rw [batchAt_append_left _ [e] hlt]
      exact hnone k hik hlt
    · rw [List.length_append, List.length_singleton] at hk
      obtain rfl : k = es.length := by omega
      exact hbatch

private theorem waits_concat_length : Waits cwd paths (es ++ [e]) es.length given ↔
    e.Tells cwd paths given ∧ .cancel ∉ es := by
  constructor
  · rintro ⟨⟨e', he', htells⟩, hrunning, -⟩
    obtain rfl : e = e' := by simpa using he'
    exact ⟨htells, by simpa using hrunning⟩
  · rintro ⟨htells, hrunning⟩
    refine ⟨⟨e, List.getElem?_concat_length, htells⟩, by simpa using hrunning, fun k hlt hk => ?_⟩
    rw [List.length_append, List.length_singleton] at hk
    omega

/-- What waits after one more event. -/
theorem exists_waits_concat : (∃ i, Waits cwd paths (es ++ [e]) i given) ↔
    (∃ i, Waits cwd paths es i given) ∧
      (((ofPaths cwd paths).after es).step e).2.batch = none ∨
    e.Tells cwd paths given ∧ .cancel ∉ es := by
  constructor
  · rintro ⟨i, hwaits⟩
    rcases Nat.lt_or_ge i es.length with hi | hi
    · obtain ⟨hearlier, hbatch⟩ := (waits_concat_of_lt hi).mp hwaits
      exact .inl ⟨⟨i, hearlier⟩, hbatch⟩
    · obtain ⟨e', he', -⟩ := hwaits.tells
      have hlt := (List.getElem?_eq_some_iff.mp he').1
      rw [List.length_append, List.length_singleton] at hlt
      obtain rfl : i = es.length := by omega
      exact .inr (waits_concat_length.mp hwaits)
  · rintro (⟨⟨i, hwaits⟩, hbatch⟩ | hlast)
    · obtain ⟨e', he', -⟩ := hwaits.tells
      have hi := (List.getElem?_eq_some_iff.mp he').1
      exact ⟨i, (waits_concat_of_lt hi).mpr ⟨hwaits, hbatch⟩⟩
    · exact ⟨es.length, waits_concat_length.mpr hlast⟩

/-- What the parts of a watch say about the events so far. -/
structure Remembers (cwd : Bytes) (paths : List Bytes) (es : List Event) (w : Watcher) : Prop where
  tracked : w.tracked = (ofPaths cwd paths).tracked
  nodup : w.pending.Nodup
  armed : w.armed = true ↔ w.pending ≠ []
  ended : w.ended = true ↔ .cancel ∈ es
  pending : ∀ given, given ∈ w.pending ↔ ∃ i, Waits cwd paths es i given

theorem mem_note : p ∈ (w.note given).pending ↔ p = given ∨ p ∈ w.pending := by
  rw [note]
  split
  next h => exact ⟨.inr, fun hp => hp.elim (fun hp => hp ▸ by simpa using h) id⟩
  next => simp

theorem nodup_note (h : w.pending.Nodup) : (w.note given).pending.Nodup := by
  rw [note]
  split
  next => exact h
  next hn => exact List.nodup_cons.mpr ⟨by simpa using hn, h⟩

private theorem Does.remembers {w' : Watcher} {b : Option (List Bytes)} (hd : w.Does e w' b)
    (h : Remembers cwd paths es w)
    (hwaits : ∀ given, (∃ i, Waits cwd paths (es ++ [e]) i given) ↔
      (∃ i, Waits cwd paths es i given) ∧ b = none ∨ e.Tells cwd paths given ∧ .cancel ∉ es) :
    Remembers cwd paths (es ++ [e]) w' := by
  cases hd with
  | ended hended =>
    have hcancel := h.ended.mp hended
    refine ⟨h.tracked, h.nodup, h.armed, by simp [hended, hcancel], fun given => ?_⟩
    rw [hwaits, h.pending]
    simp [hcancel]
  | cancel hended =>
    refine ⟨h.tracked, h.nodup, h.armed, by simp, fun given => ?_⟩
    rw [hwaits, h.pending]
    simp [← told?_iff, Event.told?]
  | hand hended harmed =>
    refine ⟨h.tracked, List.nodup_nil, by simp, ?_, fun given => ?_⟩
    · rw [h.ended]
      simp
    · rw [hwaits]
      simp [← told?_iff, Event.told?]
  | @note _ given hended htold =>
    have hne : e ≠ .cancel := by
      rintro rfl
      cases htold
    have hrunning : .cancel ∉ es := by simp [← h.ended, hended]
    rw [h.tracked] at htold
    refine ⟨h.tracked, nodup_note h.nodup, ?_, ?_, fun p => ?_⟩
    · have hmem : given ∈ (w.note given).pending := mem_note.mpr (.inl rfl)
      exact ⟨fun _ => List.ne_nil_of_mem hmem, fun _ => rfl⟩
    · change w.ended = true ↔ _
      simpa [hne.symm] using h.ended
    · rw [hwaits, mem_note, h.pending, ← told?_iff, htold]
      simp [hrunning, or_comm, eq_comm]
  | pass hended hcancel hquiet htold =>
    rw [h.tracked] at htold
    refine ⟨h.tracked, h.nodup, h.armed, ?_, fun given => ?_⟩
    · simpa [hcancel.symm] using h.ended
    · rw [hwaits, h.pending, ← told?_iff, htold]
      simp

theorem remembers_after (cwd : Bytes) (paths : List Bytes) (es : List Event) :
    Remembers cwd paths es ((ofPaths cwd paths).after es) := by
  induction es using List.reverseRecOn with
  | nil =>
    refine ⟨rfl, List.nodup_nil, by simp [after, ofPaths], by simp [after, ofPaths], fun p => ?_⟩
    refine ⟨by simp [after, ofPaths], ?_⟩
    rintro ⟨i, ⟨e, he, -⟩, -⟩
    cases he
  | append_singleton es e ih =>
    rw [after_append]
    exact (step_does _ e).remembers ih fun _ => exists_waits_concat

/-! ### Batches -/

theorem batchAt_eq_some {b : List Bytes} (h : (ofPaths cwd paths).batchAt es j = some b) :
    es[j]? = some .quiet ∧ .cancel ∉ es.take j ∧
      ((ofPaths cwd paths).after (es.take j)).pending ≠ [] ∧
      b = ((ofPaths cwd paths).after (es.take j)).pending.mergeSort Bytes.le := by
  cases he : es[j]? with
  | none => simp [batchAt_of_length_le _ (List.getElem?_eq_none_iff.mp he)] at h
  | some e =>
    have hm := remembers_after cwd paths (es.take j)
    have hdoes := step_does ((ofPaths cwd paths).after (es.take j)) e
    rw [← batchAt_eq _ he, h] at hdoes
    generalize hw' : (((ofPaths cwd paths).after (es.take j)).step e).1 = w' at hdoes
    cases hdoes with
    | hand hended harmed =>
      exact ⟨rfl, by simp [← hm.ended, hended], hm.armed.mp harmed, rfl⟩

theorem waits_take (hj : j ≤ es.length) : Waits cwd paths (es.take j) i given ↔
    i < j ∧ (∃ e, es[i]? = some e ∧ e.Tells cwd paths given) ∧ .cancel ∉ es.take i ∧
      ∀ k, i < k → k < j → (ofPaths cwd paths).batchAt es k = none := by
  have hlen : (es.take j).length = j := List.length_take_of_le hj
  constructor
  · rintro ⟨⟨e, he, htells⟩, hrunning, hnone⟩
    have hi : i < j := hlen ▸ (List.getElem?_eq_some_iff.mp he).1
    rw [List.getElem?_take_of_lt hi] at he
    rw [List.take_take, min_eq_left hi.le] at hrunning
    refine ⟨hi, ⟨e, he, htells⟩, hrunning, fun k hik hk => ?_⟩
    rw [← batchAt_take _ hk]
    exact hnone k hik (hlen.symm ▸ hk)
  · rintro ⟨hi, ⟨e, he, htells⟩, hrunning, hnone⟩
    refine ⟨⟨e, by rw [List.getElem?_take_of_lt hi, he], htells⟩, ?_, fun k hik hk => ?_⟩
    · rwa [List.take_take, min_eq_left hi.le]
    · rw [batchAt_take _ (hlen ▸ hk)]
      exact hnone k hik (hlen ▸ hk)

/-- What a batch holds: what was told since the batch before it. -/
theorem mem_batch {b : List Bytes} (h : (ofPaths cwd paths).batchAt es j = some b) : given ∈ b ↔
    ∃ i < j, (∃ e, es[i]? = some e ∧ e.Tells cwd paths given) ∧
      ∀ k, i < k → k < j → (ofPaths cwd paths).batchAt es k = none := by
  obtain ⟨hquiet, hrunning, -, rfl⟩ := batchAt_eq_some h
  have hj : j ≤ es.length := (List.getElem?_eq_some_iff.mp hquiet).1.le
  rw [(List.mergeSort_perm _ _).mem_iff, (remembers_after cwd paths (es.take j)).pending]
  simp only [waits_take hj]
  constructor
  · rintro ⟨i, hi, htells, -, hnone⟩
    exact ⟨i, hi, htells, hnone⟩
  · rintro ⟨i, hi, htells, hnone⟩
    have hsub : es.take i ⊆ es.take j := (List.take_prefix_take_left hi.le).subset
    exact ⟨i, hi, htells, fun hc => hrunning (hsub hc), hnone⟩

theorem pairwise_batch {b : List Bytes} (h : (ofPaths cwd paths).batchAt es j = some b) :
    b.Pairwise fun p q => Bytes.le p q = true ∧ p ≠ q := by
  obtain ⟨-, -, -, rfl⟩ := batchAt_eq_some h
  have hnodup := (remembers_after cwd paths (es.take j)).nodup
  exact (List.pairwise_mergeSort Bytes.le_trans Bytes.le_total _).and
    ((List.mergeSort_perm _ _).nodup_iff.mpr hnodup)

theorem batch_ne_nil {b : List Bytes} (h : (ofPaths cwd paths).batchAt es j = some b) : b ≠ [] := by
  obtain ⟨-, -, hpending, rfl⟩ := batchAt_eq_some h
  rwa [ne_eq, ← List.length_eq_zero_iff, List.length_mergeSort, List.length_eq_zero_iff]

/-- The first end of a quiet while after an event hands on what the event told. -/
theorem covers_of_quiet (hwaits : Waits cwd paths (es.take j) i given)
    (hquiet : es[j]? = some .quiet) (hrunning : .cancel ∉ es.take j) :
    (ofPaths cwd paths).Covers es i j given := by
  have hm := remembers_after cwd paths (es.take j)
  have hj : j ≤ es.length := (List.getElem?_eq_some_iff.mp hquiet).1.le
  have hpending := (hm.pending given).mpr ⟨i, hwaits⟩
  have hended : ((ofPaths cwd paths).after (es.take j)).ended = false := by
    simpa [← hm.ended] using hrunning
  have harmed := hm.armed.mpr (List.ne_nil_of_mem hpending)
  obtain ⟨hi, -, -, hnone⟩ := (waits_take hj).mp hwaits
  refine ⟨hi, ⟨_, ?_, (List.mergeSort_perm _ Bytes.le).mem_iff.mpr hpending⟩, hnone⟩
  rw [batchAt_eq _ hquiet]
  simp [step, hended, harmed]

theorem Covers.unique {l : Nat} (hk : w.Covers es i k p) (hl : w.Covers es i l p) : l = k := by
  obtain ⟨bk, hbk, -⟩ := hk.mem
  obtain ⟨bl, hbl, -⟩ := hl.mem
  rcases lt_trichotomy l k with h | h | h
  · simp [hk.first l hl.later h] at hbl
  · exact h
  · simp [hl.first k hk.later h] at hbk

theorem told_covered (he : es[i]? = some e) (htells : e.Tells cwd paths given)
    (hrunning : .cancel ∉ es.take i) (hij : i < j) (hquiet : es[j]? = some .quiet) :
    (∃ k ≤ j, (ofPaths cwd paths).Covers es i k given ∧
      ∀ l, (ofPaths cwd paths).Covers es i l given → l = k) ∨
    ∃ k, i < k ∧ k < j ∧ es[k]? = some .cancel ∧ ∀ l, i < l → l < k → es[l]? ≠ some .quiet := by
  -- everything is decided at the first quiet while after the event
  have hex : ∃ k, i < k ∧ es[k]? = some .quiet := ⟨j, hij, hquiet⟩
  obtain ⟨hik, hk⟩ := Nat.find_spec hex
  have hkj : Nat.find hex ≤ j := Nat.find_min' hex ⟨hij, hquiet⟩
  have hfirst (l : Nat) (hil : i < l) (hl : l < Nat.find hex) : es[l]? ≠ some .quiet :=
    fun hq => Nat.find_min hex hl ⟨hil, hq⟩
  generalize Nat.find hex = k at hik hk hkj hfirst
  have hlen : k ≤ es.length := (List.getElem?_eq_some_iff.mp hk).1.le
  by_cases hcancel : .cancel ∈ es.take k
  · obtain ⟨c, hc⟩ := List.mem_iff_getElem?.mp hcancel
    have hck : c < k := by
      have := (List.getElem?_eq_some_iff.mp hc).1
      simp at this
      omega
    rw [List.getElem?_take_of_lt hck] at hc
    have hic : i < c := by
      rcases lt_trichotomy i c with h | rfl | h
      · exact h
      · rw [he] at hc
        cases hc
        cases htells
      · exact absurd (List.mem_iff_getElem?.mpr ⟨c, by rwa [List.getElem?_take_of_lt h]⟩) hrunning
    exact .inr ⟨c, hic, by omega, hc, fun l hil hl => hfirst l hil (by omega)⟩
  · have hnone (l : Nat) (hil : i < l) (hl : l < k) : (ofPaths cwd paths).batchAt es l = none := by
      refine Option.eq_none_iff_forall_ne_some.mpr fun b hb => ?_
      exact hfirst l hil hl (batchAt_eq_some hb).1
    have hwaits := (waits_take hlen).mpr ⟨hik, ⟨e, he, htells⟩, hrunning, hnone⟩
    have hcovers := covers_of_quiet hwaits hk hcancel
    exact .inl ⟨k, hkj, hcovers, fun l hl => hcovers.unique hl⟩

/-- An event that tells nothing changes nothing. -/
theorem step_of_not_tells (hw : w.tracked = (ofPaths cwd paths).tracked) (hquiet : e ≠ .quiet)
    (hcancel : e ≠ .cancel) (htells : ∀ p, ¬ e.Tells cwd paths p) :
    (w.step e).1 = w ∧ (w.step e).2.batch = none := by
  have htold : e.told? w.tracked = none :=
    hw ▸ Option.eq_none_iff_forall_ne_some.mpr fun p hp => htells p (told?_iff.mp hp)
  have hdoes := step_does w e
  generalize (w.step e).1 = w', (w.step e).2.batch = b at hdoes
  cases hdoes with
  | ended => exact ⟨rfl, rfl⟩
  | cancel => exact absurd rfl hcancel
  | hand => exact absurd rfl hquiet
  | note _ h => simp [htold] at h
  | pass => exact ⟨rfl, rfl⟩

theorem batches_insert {xs : List Event} (ys : List Event) (hquiet : e ≠ .quiet)
    (hcancel : e ≠ .cancel) (htells : ∀ p, ¬ e.Tells cwd paths p) :
    (ofPaths cwd paths).batches (xs ++ e :: ys) = (ofPaths cwd paths).batches (xs ++ ys) := by
  have hm := remembers_after cwd paths xs
  obtain ⟨hstep, hbatch⟩ := step_of_not_tells hm.tracked hquiet hcancel htells
  rw [batches_append, batches_append, batches, batches, batches, handed, hstep, hbatch,
    List.reduceOption_cons_of_none]

/-- A watch loses no change and makes none up. The end of a quiet while is waited for exactly while
paths are pending; a batch is a sorted list of exactly the given paths told about since the batch
before it; what an event tells is handed on by the first batch after it and no other, unless the
watch ends before the next quiet while; and events that tell nothing make no difference. -/
theorem batches_tell_changes (cwd : Bytes) (paths : List Bytes) (es : List Event) :
    let w := ofPaths cwd paths
    ((w.after es).armed = true ↔ (w.after es).pending ≠ []) ∧
    (∀ j b, w.batchAt es j = some b →
      b ≠ [] ∧ (b.Pairwise fun p q => Bytes.le p q = true ∧ p ≠ q) ∧
      ∀ given, given ∈ b ↔ ∃ i < j, (∃ e, es[i]? = some e ∧ e.Tells cwd paths given) ∧
        ∀ k, i < k → k < j → w.batchAt es k = none) ∧
    (∀ i e given, es[i]? = some e → e.Tells cwd paths given → .cancel ∉ es.take i →
      ∀ j, i < j → es[j]? = some .quiet →
        (∃ k ≤ j, w.Covers es i k given ∧ ∀ l, w.Covers es i l given → l = k) ∨
        ∃ k, i < k ∧ k < j ∧ es[k]? = some .cancel ∧
          ∀ l, i < l → l < k → es[l]? ≠ some .quiet) ∧
    ∀ xs e ys, es = xs ++ e :: ys → e ≠ .quiet → e ≠ .cancel → (∀ p, ¬ e.Tells cwd paths p) →
      w.batchAt es xs.length = none ∧ w.batches es = w.batches (xs ++ ys) := by
  refine ⟨(remembers_after cwd paths es).armed, fun j b hb => ?_, ?_, ?_⟩
  · exact ⟨batch_ne_nil hb, pairwise_batch hb, fun _ => mem_batch hb⟩
  · intro i e given he htells hrunning j hij hquiet
    exact told_covered he htells hrunning hij hquiet
  · rintro xs e ys rfl hquiet hcancel htells
    refine ⟨?_, batches_insert ys hquiet hcancel htells⟩
    refine Option.eq_none_iff_forall_ne_some.mpr fun b hb => hquiet ?_
    simpa using (batchAt_eq_some hb).1

/-- Two names of one file: the later one stands for both, and stands once. -/
example : (ofPaths (utf8 "/w") [utf8 "a.json", utf8 "./a.json"]).batches
    [.change (utf8 "/w/a.json") .writing, .change (utf8 "/w/b.json") .writing,
      .change (utf8 "/w/a.json") .creation, .quiet, .quiet] = [[utf8 "./a.json"]] := by
  cbv

end Watcher

end CallAssist
