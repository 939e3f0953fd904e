import CallAssist.Validation
import Mathlib.Algebra.GroupWithZero.Nat
import Mathlib.Data.List.Forall2

/-!
Checks that take turns. What each place holds follows from how far its check has come, whatever the
others do; every move that changes something brings the end nearer, and until the end there is one.
-/

namespace CallAssist

/-- A verdict that tells what loading a path comes to. -/
inductive Verdict.Tells (fs : Files) (path : Bytes) : Verdict → Prop where
  | loaded {c : Catalog} (h : Catalog.load fs path = .ok c) : Tells fs path ⟨path, c.size, []⟩
  | failed {e : LoadError} (h : Catalog.load fs path = .error e) (he : e.message ≠ []) :
    Tells fs path ⟨path, 0, e.message⟩

private theorem LoadError.message_ne_nil (e : LoadError) : e.message ≠ [] := by
  cases e <;> exact List.cons_ne_nil _ _

namespace Validation

def Stage.place (fs : Files) (path : Bytes) : Stage → Verdict
  | .loading => .opened path
  | .done => Verdict.note (Catalog.load fs path) (.opened path)
  | _ => .blank

theorem Stage.tells_done (fs : Files) (path : Bytes) :
    Verdict.Tells fs path (Stage.done.place fs path) := by
  rw [Stage.place]
  cases h : Catalog.load fs path with
  | ok c => exact .loaded h
  | error e => exact .failed h e.message_ne_nil

theorem Stage.not_isRunning_of_isOver {st : Stage} (h : st.isOver = true) :
    st.isRunning = false := by
  cases st with
  | calledOff | done => rfl
  | waiting | started | loading => cases h

theorem Stage.isOver_of_idle {st : Stage} (hw : st ≠ .waiting) (hr : st.isRunning = false) :
    st.isOver = true := by
  cases st with
  | waiting => exact absurd rfl hw
  | started | loading => cases hr
  | calledOff | done => rfl

def Stage.left : Stage → Nat
  | .waiting => 3
  | .started => 2
  | .loading => 1
  | _ => 0

namespace Checks

variable {fs : Files} {limit : Int} {paths : List Bytes} {c : Checks}

section Steps

/-- What a move can do. -/
inductive Makes (fs : Files) (limit : Int) (c : Checks) : Move → Checks → Prop where
  | stay (m : Move) : Makes fs limit c m c
  | cancel (hc : c.cancelled = false) : Makes fs limit c .cancel { c with cancelled := true }
  | start {i : Nat} {p : Bytes} (ht : c.tasks[i]? = some (p, .waiting))
      (hr : c.hasRoom limit = true) : Makes fs limit c .start (c.advance i p .started)
  | callOff {i : Nat} {p : Bytes} (ht : c.tasks[i]? = some (p, .started))
      (hc : c.cancelled = true) : Makes fs limit c (.look i) (c.advance i p .calledOff)
  | load {i : Nat} {p : Bytes} (ht : c.tasks[i]? = some (p, .started)) :
    Makes fs limit c (.look i)
      { c.advance i p .loading with places := c.places.set i (.opened p) }
  | finish {i : Nat} {p : Bytes} (ht : c.tasks[i]? = some (p, .loading))
      (hp : Catalog.breaksDown fs p = false) : Makes fs limit c (.finish i)
      { c.advance i p .done with places := c.places.modify i (Verdict.note (Catalog.load fs p)) }
  | breakDown {i : Nat} {p : Bytes} (hb : c.broken = false)
      (ht : c.tasks[i]? = some (p, .loading)) (hp : Catalog.breaksDown fs p = true) :
    Makes fs limit c (.finish i) { c with broken := true }

private theorem startFirst_cons {p : Bytes} {st : Stage} (h : st ≠ .waiting)
    (ts : List (Bytes × Stage)) : startFirst ((p, st) :: ts) = (p, st) :: startFirst ts := by
  cases st with
  | waiting => exact absurd rfl h
  | _ => rfl

private theorem startFirst_cases (ts : List (Bytes × Stage)) :
    (∀ t ∈ ts, t.2 ≠ .waiting) ∧ startFirst ts = ts ∨
      ∃ i p, ts[i]? = some (p, .waiting) ∧ startFirst ts = ts.set i (p, .started) := by
  induction ts with
  | nil => exact .inl ⟨fun t ht => (List.not_mem_nil ht).elim, rfl⟩
  | cons t ts ih =>
    obtain ⟨p, stage⟩ := t
    by_cases hw : stage = .waiting
    · subst hw
      exact .inr ⟨0, p, rfl, rfl⟩
    · rcases ih with ⟨hall, he⟩ | ⟨i, q, hi, he⟩
      · exact .inl ⟨List.forall_mem_cons.mpr ⟨hw, hall⟩, by rw [startFirst_cons hw, he]⟩
      · exact .inr ⟨i + 1, q, hi, by rw [startFirst_cons hw, he]; rfl⟩

theorem step_makes (fs : Files) (limit : Int) (c : Checks) (m : Move) :
    Makes fs limit c m (c.step fs limit m) := by
  unfold step
  split
  · exact .stay m
  · next hb =>
    rw [Bool.not_eq_true] at hb
    cases m with
    | cancel =>
      cases hc : c.cancelled with
      | true =>
        have hsame : { c with cancelled := true } = c := by rw [← hc]
        simp only [hsame]
        exact .stay _
      | false => exact .cancel hc
    | start =>
      simp only
      split
      · next hr =>
        rcases startFirst_cases c.tasks with ⟨_, he⟩ | ⟨i, p, hi, he⟩
        · rw [he]
          exact .stay _
        · rw [he]
          exact .start hi hr
      · exact .stay _
    | look i =>
      simp only
      split
      · next p ht =>
        split
        · next hc => exact .callOff ht hc
        · exact .load ht
      · exact .stay _
    | finish i =>
      simp only
      split
      · next p ht =>
        split
        · next hp => exact .breakDown hb ht hp
        · next hp => exact .finish ht (by simpa using hp)
      · exact .stay _

end Steps

section Soundness

/-- What holds of checks however they have taken turns. -/
structure Sound (fs : Files) (limit : Int) (paths : List Bytes) (c : Checks) : Prop where
  order : c.tasks.map Prod.fst = paths
  places : c.places = c.tasks.map fun t => t.2.place fs t.1
  loaded : ∀ p, (p, .done) ∈ c.tasks → Catalog.breaksDown fs p = false
  calledOff : ∀ p, (p, .calledOff) ∈ c.tasks → c.cancelled = true
  broken : c.broken = true → ∃ p ∈ paths, Catalog.breaksDown fs p = true
  room : 0 < limit → (c.running : Int) ≤ limit

private theorem running_set {i : Nat} {p : Bytes} {st : Stage} (st' : Stage)
    (ht : c.tasks[i]? = some (p, st)) : (c.advance i p st').running =
      c.running - (if st.isRunning then 1 else 0) + (if st'.isRunning then 1 else 0) := by
  obtain ⟨hi, he⟩ := List.getElem?_eq_some_iff.mp ht
  rw [running, advance, List.countP_set hi, he, running]

theorem sound_ofPaths (fs : Files) (limit : Int) (paths : List Bytes) :
    Sound fs limit paths (ofPaths paths) where
  order := by
    rw [ofPaths, List.map_map]
    exact List.map_id paths
  places := by
    rw [ofPaths, List.map_map]
    rfl
  loaded p h := by simp [ofPaths] at h
  calledOff p h := by simp [ofPaths] at h
  broken h := by cases h
  room h := by
    have hnone : (ofPaths paths).running = 0 := by
      rw [running, ofPaths, List.countP_map]
      exact List.countP_eq_zero.mpr fun _ _ => Bool.false_ne_true
    omega

private theorem Sound.advance (h : Sound fs limit paths c) {i : Nat} {p : Bytes} {st : Stage}
    (st' : Stage) (ht : c.tasks[i]? = some (p, st))
    (hdone : st' = .done → Catalog.breaksDown fs p = false)
    (hoff : st' = .calledOff → c.cancelled = true)
    (hrun : st'.isRunning = true → st.isRunning = true ∨ c.hasRoom limit = true) :
    Sound fs limit paths { c.advance i p st' with places := c.places.set i (st'.place fs p) } where
  order := by
    have hp : (c.tasks.map Prod.fst)[i]? = some p := by rw [List.getElem?_map, ht]; rfl
    obtain ⟨hi, he⟩ := List.getElem?_eq_some_iff.mp hp
    rw [Checks.advance, List.map_set, ← h.order]
    conv_rhs => rw [← List.set_getElem_self hi, he]
  places := by
    rw [Checks.advance, List.map_set, h.places]
  loaded q hq := by
    rcases List.mem_or_eq_of_mem_set hq with hq | hq
    · exact h.loaded q hq
    · obtain ⟨rfl, rfl⟩ := Prod.mk.inj hq
      exact hdone rfl
  calledOff q hq := by
    rcases List.mem_or_eq_of_mem_set hq with hq | hq
    · exact h.calledOff q hq
    · exact hoff (Prod.mk.inj hq).2.symm
  broken := h.broken
  room hl := by
    have hr := h.room hl
    have hset := running_set st' ht
    change ((c.advance i p st').running : Int) ≤ limit
    by_cases hs : st'.isRunning = true
    · rcases hrun hs with hst | hroom
      · have hpos : 0 < c.running :=
          List.countP_pos_iff.mpr ⟨_, List.mem_of_getElem? ht, hst⟩
        rw [hset, if_pos hst, if_pos hs]
        omega
      · simp only [hasRoom, Bool.or_eq_true, decide_eq_true_eq] at hroom
        rw [hset, if_pos hs]
        split <;> omega
    · rw [hset, if_neg hs]
      omega

private theorem Sound.set_place (h : Sound fs limit paths c) {i : Nat} {p : Bytes} {st : Stage}
    (ht : c.tasks[i]? = some (p, st)) : c.places[i]? = some (st.place fs p) := by
  rw [h.places, List.getElem?_map, ht]
  rfl

theorem Sound.step (h : Sound fs limit paths c) (m : Move) :
    Sound fs limit paths (c.step fs limit m) := by
  have hm := step_makes fs limit c m
  generalize c.step fs limit m = c' at hm
  have keep {i : Nat} {v : Verdict} (hv : c.places[i]? = some v) : c.places.set i v = c.places := by
    obtain ⟨hi, he⟩ := List.getElem?_eq_some_iff.mp hv
    rw [← he, List.set_getElem_self]
  cases hm with
  | stay => exact h
  | cancel => exact { h with calledOff := fun _ _ => rfl }
  | @start i p ht hr =>
    have hs := h.advance .started ht (fun h => by cases h) (fun h => by cases h) fun _ => .inr hr
    rwa [show Stage.started.place fs p = Stage.waiting.place fs p from rfl,
      keep (h.set_place ht)] at hs
  | @callOff i p ht hc =>
    have hs := h.advance .calledOff ht (fun h => by cases h) (fun _ => hc) fun h => by cases h
    rwa [show Stage.calledOff.place fs p = Stage.started.place fs p from rfl,
      keep (h.set_place ht)] at hs
  | load ht =>
    exact h.advance .loading ht (fun h => by cases h) (fun h => by cases h) fun _ => .inl rfl
  | @finish i p ht hp =>
    have hs := h.advance .done ht (fun _ => hp) (fun h => by cases h) fun h => by cases h
    rw [List.modify_eq_set_getElem?, h.set_place ht]
    exact hs
  | @breakDown i p _ ht hp =>
    have hmem : p ∈ paths := by
      rw [← h.order]
      exact List.mem_map_of_mem (List.mem_of_getElem? ht)
    exact { h with broken := fun _ => ⟨p, hmem, hp⟩ }

theorem Sound.run (h : Sound fs limit paths c) (moves : List Move) :
    Sound fs limit paths (c.run fs limit moves) := by
  induction moves generalizing c with
  | nil => exact h
  | cons m moves ih => exact ih (h.step m)

/-- Nothing but an order to stop calls the work off. -/
theorem cancel_of_cancelled {moves : List Move} (hc : c.cancelled = false)
    (h : (c.run fs limit moves).cancelled = true) : .cancel ∈ moves := by
  induction moves generalizing c with
  | nil =>
    rw [run, List.foldl_nil, hc] at h
    cases h
  | cons m moves ih =>
    have hm := step_makes fs limit c m
    by_cases hs : (c.step fs limit m).cancelled = true
    · generalize c.step fs limit m = c' at hm hs
      cases hm with
      | cancel => exact List.mem_cons_self
      | _ => exact absurd hs (by simp [hc, Checks.advance])
    · exact List.mem_cons_of_mem _ (ih (by simpa using hs) h)

end Soundness

section Endings

private theorem hasRoom_of_idle (limit : Int) (h : ∀ t ∈ c.tasks, t.2.isRunning = false) :
    c.hasRoom limit = true := by
  have hnone : c.running = 0 :=
    List.countP_eq_zero.mpr fun t ht => Bool.eq_false_iff.mp (h t ht)
  simp only [hasRoom, hnone, Bool.or_eq_true, decide_eq_true_eq]
  omega

/-- A schedule in which every move changes something. -/
def Lively (fs : Files) (limit : Int) : Checks → List Move → Prop
  | _, [] => True
  | c, m :: moves => c.step fs limit m ≠ c ∧ Lively fs limit (c.step fs limit m) moves

def left (c : Checks) : Nat :=
  (c.tasks.map fun t => t.2.left).sum + (if c.cancelled then 0 else 1) +
    (if c.broken then 0 else 1)

private theorem sum_left_set {ts : List (Bytes × Stage)} {i : Nat} {p q : Bytes} {st st' : Stage}
    (ht : ts[i]? = some (p, st)) (h : st'.left < st.left) :
    ((ts.set i (q, st')).map fun t => t.2.left).sum < (ts.map fun t => t.2.left).sum := by
  induction ts generalizing i with
  | nil => cases ht
  | cons t ts ih =>
    cases i with
    | zero =>
      obtain rfl : t = (p, st) := Option.some.inj ht
      simpa using h
    | succ i => simpa using ih ht

private theorem left_advance {i : Nat} {p : Bytes} {st : Stage} (st' : Stage)
    (ht : c.tasks[i]? = some (p, st)) (h : st'.left < st.left) :
    (c.advance i p st').left < c.left :=
  Nat.add_lt_add_right (Nat.add_lt_add_right (sum_left_set ht h) _) _

/-- Whatever changes something brings the end nearer. -/
theorem step_left (fs : Files) (limit : Int) (c : Checks) (m : Move) :
    c.step fs limit m = c ∨ (c.step fs limit m).left < c.left := by
  have hm := step_makes fs limit c m
  generalize c.step fs limit m = c' at hm
  cases hm with
  | stay => exact .inl rfl
  | cancel hc => exact .inr (by simp [left, hc])
  | start ht => exact .inr (left_advance .started ht (by decide))
  | callOff ht => exact .inr (left_advance .calledOff ht (by decide))
  | load ht => exact .inr (left_advance .loading ht (by decide))
  | finish ht => exact .inr (left_advance .done ht (by decide))
  | breakDown hb => exact .inr (by simp [left, hb])

theorem left_ofPaths (paths : List Bytes) : (ofPaths paths).left = 3 * paths.length + 2 := by
  have hsum : ((ofPaths paths).tasks.map fun t => t.2.left).sum = 3 * paths.length := by
    rw [ofPaths, List.map_map]
    induction paths with
    | nil => rfl
    | cons p paths ih =>
      rw [List.map_cons, List.sum_cons, ih, List.length_cons]
      change 3 + _ = _
      omega
  rw [left, hsum]
  rfl

theorem Lively.length_le {moves : List Move} (h : Lively fs limit c moves) :
    moves.length ≤ c.left := by
  induction moves generalizing c with
  | nil => exact Nat.zero_le _
  | cons m moves ih =>
    have hstep := (step_left fs limit c m).resolve_left h.1
    have hrest := ih h.2
    rw [List.length_cons]
    omega

private theorem ne_of_advance {i : Nat} {p : Bytes} {st : Stage} (st' : Stage)
    (ht : c.tasks[i]? = some (p, st)) (h : st' ≠ st) {c' : Checks}
    (hs : c'.tasks = c.tasks.set i (p, st')) : c' ≠ c := by
  rintro rfl
  obtain ⟨hi, _⟩ := List.getElem?_eq_some_iff.mp ht
  rw [hs, List.getElem?_set_self hi] at ht
  exact h (Prod.mk.inj (Option.some.inj ht)).2

private theorem step_look_ne {i : Nat} {p : Bytes} (hb : ¬ c.broken = true)
    (ht : c.tasks[i]? = some (p, .started)) : c.step fs limit (.look i) ≠ c := by
  by_cases hc : c.cancelled = true
  · exact ne_of_advance .calledOff ht (by decide) (by simp [step, hb, ht, hc, advance])
  · exact ne_of_advance .loading ht (by decide) (by simp [step, hb, ht, hc, advance])

private theorem step_finish_ne {i : Nat} {p : Bytes} (hb : ¬ c.broken = true)
    (ht : c.tasks[i]? = some (p, .loading)) : c.step fs limit (.finish i) ≠ c := by
  by_cases hp : Catalog.breaksDown fs p = true
  · intro he
    have hbroken : (c.step fs limit (.finish i)).broken = true := by simp [step, hb, ht, hp]
    rw [he] at hbroken
    exact hb hbroken
  · exact ne_of_advance .done ht (by decide) (by simp [step, hb, ht, hp, advance])

private theorem step_start_ne (hb : ¬ c.broken = true) (hroom : c.hasRoom limit = true)
    (hwaits : ∃ t ∈ c.tasks, t.2 = .waiting) : c.step fs limit .start ≠ c := by
  rcases startFirst_cases c.tasks with ⟨hall, _⟩ | ⟨i, p, hi, hs⟩
  · obtain ⟨t, ht, hw⟩ := hwaits
    exact absurd hw (hall t ht)
  · exact ne_of_advance .started hi (by decide) (by simp [step, hb, hroom, hs])

/-- Checks that are not over can go on, without an order to stop. -/
theorem exists_step (h : c.outcome? = none) (fs : Files) (limit : Int) :
    ∃ m, m ≠ .cancel ∧ c.step fs limit m ≠ c := by
  have hb : ¬ c.broken = true := fun hb => by simp [outcome?, hb] at h
  by_cases hrun : ∃ t ∈ c.tasks, t.2.isRunning = true
  · obtain ⟨⟨p, st⟩, ht, hst⟩ := hrun
    obtain ⟨i, hi⟩ := List.getElem?_of_mem ht
    cases st with
    | started => exact ⟨.look i, by simp, step_look_ne hb hi⟩
    | loading => exact ⟨.finish i, by simp, step_finish_ne hb hi⟩
    | waiting => cases hst
    | calledOff => cases hst
    | done => cases hst
  · have hidle : ∀ t ∈ c.tasks, t.2.isRunning = false := fun t ht =>
      Bool.eq_false_iff.mpr fun hr => hrun ⟨t, ht, hr⟩
    have hwaits : ∃ t ∈ c.tasks, t.2 = .waiting := by
      by_contra hno
      have hover : c.tasks.all (·.2.isOver) = true := by
        refine List.all_eq_true.mpr fun t ht => ?_
        exact Stage.isOver_of_idle (fun hw => hno ⟨t, ht, hw⟩) (hidle t ht)
      simp [outcome?, hb, hover] at h
    exact ⟨.start, by simp, step_start_ne hb (hasRoom_of_idle limit hidle) hwaits⟩

/-- What checks came to tells what happened to them. -/
theorem Sound.outcome (h : Sound fs limit paths c) {r : Outcome} (hr : c.outcome? = some r) :
    (∃ vs, r = .verdicts vs ∧ List.Forall₂ (Verdict.Tells fs) paths vs ∧
      ∀ p ∈ paths, Catalog.breaksDown fs p = false) ∨
    (r = .calledOff ∧ c.cancelled = true) ∨
    (r = .brokeDown ∧ ∃ p ∈ paths, Catalog.breaksDown fs p = true) := by
  unfold outcome? at hr
  split_ifs at hr with hb hover hoff
  · cases hr
    exact .inr (.inr ⟨rfl, h.broken hb⟩)
  · cases hr
    obtain ⟨⟨p, st⟩, ht, hst⟩ := List.any_eq_true.mp hoff
    obtain rfl : st = .calledOff := by simpa using hst
    exact .inr (.inl ⟨rfl, h.calledOff p ht⟩)
  · cases hr
    have hdone : ∀ t ∈ c.tasks, t.2 = .done := by
      intro t ht
      have hover := List.all_eq_true.mp hover t ht
      have hoff : ¬ t.2 = .calledOff := fun he =>
        hoff (List.any_eq_true.mpr ⟨t, ht, by simp [he]⟩)
      cases hst : t.2 <;> simp_all [Stage.isOver]
    refine .inl ⟨c.places, rfl, ?_, fun p hp => ?_⟩
    · rw [h.places, ← h.order, List.forall₂_map_left_iff, List.forall₂_map_right_iff,
        List.forall₂_same]
      intro t ht
      rw [hdone t ht]
      exact Stage.tells_done fs t.1
    · rw [← h.order] at hp
      obtain ⟨t, ht, rfl⟩ := List.mem_map.mp hp
      exact h.loaded t.1 (hdone t ht ▸ ht)

end Endings

section InOrder

def turn (i : Nat) : List Move := [.start, .look i, .finish i]

private theorem run_broken (hb : c.broken = true) (moves : List Move) :
    c.run fs limit moves = c := by
  induction moves with
  | nil => rfl
  | cons m moves ih =>
    have hstep : c.step fs limit m = c := if_pos hb
    rw [run, List.foldl_cons, hstep]
    exact ih

private theorem startFirst_append {os ts : List (Bytes × Stage)}
    (h : ∀ t ∈ os, t.2.isOver = true) : startFirst (os ++ ts) = os ++ startFirst ts := by
  induction os with
  | nil => rfl
  | cons t os ih =>
    obtain ⟨ht, hos⟩ := List.forall_mem_cons.mp h
    obtain ⟨p, st⟩ := t
    have hst : st ≠ .waiting := by
      rintro rfl
      cases ht
    rw [List.cons_append, startFirst_cons hst, ih hos]
    rfl

private theorem run_turn (fs : Files) (limit : Int) {os ws : List (Bytes × Stage)} {p : Bytes}
    (hb : c.broken = false) (ht : c.tasks = os ++ (p, .waiting) :: ws)
    (hos : ∀ t ∈ os, t.2.isOver = true) (hws : ∀ t ∈ ws, t.2 = .waiting) :
    let c' := c.run fs limit (turn os.length)
    c'.broken = true ∨
      c'.broken = false ∧ ∃ st, st.isOver = true ∧ c'.tasks = os ++ (p, st) :: ws := by
  have hroom : c.hasRoom limit = true := by
    refine hasRoom_of_idle limit fun t hm => ?_
    rw [ht, List.mem_append, List.mem_cons] at hm
    rcases hm with hm | rfl | hm
    · exact Stage.not_isRunning_of_isOver (hos t hm)
    · rfl
    · rw [hws t hm]
      rfl
  have hstart : c.step fs limit .start = { c with tasks := os ++ (p, .started) :: ws } := by
    simp only [step, hb, hroom, ht, startFirst_append hos, startFirst]
    rfl
  simp only [run, turn, List.foldl_cons, List.foldl_nil, hstart]
  by_cases hc : c.cancelled = true
  · refine .inr ⟨?_, .calledOff, rfl, ?_⟩
    · simp [step, hb, hc, advance]
    · simp [step, hb, hc, advance]
  · by_cases hp : Catalog.breaksDown fs p = true
    · exact .inl (by simp [step, hb, hc, hp, advance])
    · refine .inr ⟨?_, .done, rfl, ?_⟩
      · simp [step, hb, hc, hp, advance]
      · simp [step, hb, hc, hp, advance]

/-- Checks that take their turns one after the other come to an end. -/
theorem isSome_outcome_turns (fs : Files) (limit : Int) (os ws : List (Bytes × Stage))
    (hb : c.broken = false) (ht : c.tasks = os ++ ws) (hos : ∀ t ∈ os, t.2.isOver = true)
    (hwaits : ∀ t ∈ ws, t.2 = .waiting) :
    (c.run fs limit ((List.range' os.length ws.length).flatMap turn)).outcome?.isSome = true := by
  induction ws generalizing c os with
  | nil =>
    rw [List.append_nil] at ht
    have hover : c.tasks.all (·.2.isOver) = true := List.all_eq_true.mpr (ht ▸ hos)
    simp [run, outcome?, hb, hover]
  | cons t ws ih =>
    obtain ⟨hw, hws⟩ := List.forall_mem_cons.mp hwaits
    obtain ⟨p, st⟩ := t
    obtain rfl : st = .waiting := hw
    have hsplit : c.run fs limit ((List.range' os.length (ws.length + 1)).flatMap turn) =
        (c.run fs limit (turn os.length)).run fs limit
          ((List.range' (os.length + 1) ws.length).flatMap turn) := by
      rw [List.range'_succ, List.flatMap_cons, run, List.foldl_append]
      rfl
    rw [List.length_cons, hsplit]
    rcases run_turn fs limit hb ht hos hws with hbroken | ⟨hb', st, hst, ht'⟩
    · rw [run_broken hbroken, outcome?, if_pos hbroken]
      rfl
    · have hos' : ∀ t ∈ os ++ [(p, st)], t.2.isOver = true := by
        intro t hm
        rcases List.mem_append.mp hm with hm | hm
        · exact hos t hm
        · rw [List.mem_singleton.mp hm]
          exact hst
      have hrest := ih (os ++ [(p, st)]) hb' (by rw [ht', List.append_cons]) hos' hws
      rwa [List.length_append, List.length_singleton] at hrest

end InOrder

end Checks

end Validation

end CallAssist
