import CallAssist.Command.Run
import CallAssist.Proofs.Validation.Turns

/-!
Catalogues checked side by side. However the checks take turns, they come to an end, and what they
come to is the verdict on each path, in the order of the paths; only an order to stop, or a
catalogue that ends the program when it is read, can keep them from that.
-/

namespace CallAssist

namespace Validation

/-- The checks done one after the other come to an end, and what they come to tells why. -/
theorem outcome_cases (fs : Files) (paths : List Bytes) (limit : Int) (cancelled : Bool) :
    (∃ vs, outcome fs paths limit cancelled = .verdicts vs ∧
      List.Forall₂ (Verdict.Tells fs) paths vs ∧ ∀ p ∈ paths, Catalog.breaksDown fs p = false) ∨
    (outcome fs paths limit cancelled = .calledOff ∧ cancelled = true) ∨
    (outcome fs paths limit cancelled = .brokeDown ∧
      ∃ p ∈ paths, Catalog.breaksDown fs p = true) := by
  have hsome : ((Checks.ofPaths paths).run fs limit
      ((if cancelled then [.cancel] else []) ++ inOrder paths.length)).outcome?.isSome = true := by
    have hturns (c : Checks) (hb : c.broken = false) (ht : c.tasks = (Checks.ofPaths paths).tasks) :
        (c.run fs limit (inOrder paths.length)).outcome?.isSome = true := by
      have hwaits : ∀ t ∈ (Checks.ofPaths paths).tasks, t.2 = .waiting := by
        intro t hm
        obtain ⟨p, _, rfl⟩ := List.mem_map.mp hm
        rfl
      have h := Checks.isSome_outcome_turns fs limit [] (Checks.ofPaths paths).tasks hb ht
        (fun _ h => (List.not_mem_nil h).elim) hwaits
      rw [List.length_nil, Checks.ofPaths, List.length_map, ← List.range_eq_range'] at h
      exact h
    cases cancelled with
    | false => exact hturns _ rfl rfl
    | true => exact hturns ((Checks.ofPaths paths).step fs limit .cancel) rfl rfl
  obtain ⟨r, hr⟩ := Option.isSome_iff_exists.mp hsome
  have houtcome : outcome fs paths limit cancelled = r := by
    rw [outcome, hr]
    rfl
  rw [houtcome]
  have hsound := (Checks.sound_ofPaths fs limit paths).run
    ((if cancelled then [.cancel] else []) ++ inOrder paths.length)
  rcases hsound.outcome hr with h | ⟨h, hc⟩ | h
  · exact .inl h
  · refine .inr (.inl ⟨h, ?_⟩)
    have hm := Checks.cancel_of_cancelled rfl hc
    cases cancelled with
    | true => rfl
    | false => simp [inOrder] at hm
  · exact .inr (.inr h)

section Commands

def failures (fs : Files) (paths : List Bytes) : Nat :=
  paths.countP fun p => !(Catalog.load fs p).isOk

private theorem failed_of_tells {fs : Files} {paths : List Bytes} {vs : List Verdict}
    (h : List.Forall₂ (Verdict.Tells fs) paths vs) : Checkup.failed vs = failures fs paths := by
  induction h with
  | nil => rfl
  | @cons p v paths vs hv _ ih =>
    have hok : v.isOk = (Catalog.load fs p).isOk := by
      cases hv with
      | loaded hl =>
        rw [hl]
        rfl
      | failed hl he =>
        rw [hl]
        exact List.isEmpty_eq_false_iff.mpr he
    rw [Checkup.failed] at ih ⊢
    rw [failures] at ih ⊢
    rw [List.countP_cons, List.countP_cons, ih, hok]

theorem failures_eq_zero {fs : Files} {paths : List Bytes} :
    failures fs paths = 0 ↔ ∀ p ∈ paths, ∃ c, Catalog.load fs p = .ok c := by
  rw [failures, List.countP_eq_zero]
  refine forall₂_congr fun p _ => ?_
  cases Catalog.load fs p <;> simp [Except.isOk, Except.toBool]

private theorem not_any_breaksDown {fs : Files} {paths : List Bytes}
    (h : ∀ p ∈ paths, Catalog.breaksDown fs p = false) :
    ¬ paths.any (Catalog.breaksDown fs) = true := by
  rw [List.any_eq_true]
  rintro ⟨p, hp, hb⟩
  rw [h p hp] at hb
  cases hb

def asked (s : Program.Setup) (flags : Command.Parsed) : List Bytes :=
  if flags.args.isEmpty then [s.settings.catalogPath] else flags.args

private theorem validate_once {h : Host} {s : Program.Setup} {flags : Command.Parsed}
    (r : Renderer) (hc : h.cancelled = false) (hw : (flags.bool? "watch").getD false = false) :
    (Program.validate h s r flags).2 =
      if (asked s flags).any (Catalog.breaksDown h.files) then .error .breakdown
      else if failures h.files (asked s flags) = 0 then .ok .done
      else .error (.invalidCatalogs (failures h.files (asked s flags)) (asked s flags).length) := by
  have hpaths : (if flags.args.isEmpty then [s.settings.catalogPath] else flags.args) =
      asked s flags := rfl
  unfold Program.validate Program.checkPaths
  simp only [hpaths, hc]
  rcases outcome_cases h.files (asked s flags) ((flags.int? "jobs").getD 0) false with
    ⟨vs, ho, htells, hno⟩ | ⟨_, hcancel⟩ | ⟨ho, p, hp, hb⟩
  · rw [ho, if_neg (not_any_breaksDown hno)]
    simp only [hw, Bool.false_eq_true, if_false, failed_of_tells htells, Nat.pos_iff_ne_zero,
      ite_not]
    split <;> rfl
  · cases hcancel
  · rw [ho, if_pos (List.any_eq_true.mpr ⟨p, hp, hb⟩)]

end Commands

/-- However the checks take turns, no more of them run than may, they cannot go on for ever or get
stuck, and once they are over there is a verdict on each path, in the order of the paths, which
tells what loading that path comes to; there is none at all if the work was called off, or if
loading one of the paths is the end of the program. A command that checks once fails exactly where a
catalogue does not load, and tells how many of them do not. -/
theorem outcome_of_any_schedule (fs : Files) (limit : Int) (paths : List Bytes)
    (moves : List Move) :
    let c := (Checks.ofPaths paths).run fs limit moves
    (0 < limit → (c.running : Int) ≤ limit) ∧
    (Checks.Lively fs limit (.ofPaths paths) moves → moves.length ≤ 3 * paths.length + 2) ∧
    (c.outcome? = none → ∃ m, m ≠ .cancel ∧ c.step fs limit m ≠ c) ∧
    (∀ o, c.outcome? = some o →
      (∃ vs, o = .verdicts vs ∧ List.Forall₂ (Verdict.Tells fs) paths vs ∧
        ∀ p ∈ paths, Catalog.breaksDown fs p = false) ∨
      (o = .calledOff ∧ .cancel ∈ moves) ∨
      (o = .brokeDown ∧ ∃ p ∈ paths, Catalog.breaksDown fs p = true)) ∧
    ∀ (h : Host) (s : Program.Setup) (r : Renderer) (flags : Command.Parsed),
      h.cancelled = false → (flags.bool? "watch").getD false = false →
      let paths := asked s flags
      let failed := failures h.files paths
      ((∃ p ∈ paths, Catalog.breaksDown h.files p = true) →
        (Program.validate h s r flags).2 = .error .breakdown) ∧
      ((∀ p ∈ paths, Catalog.breaksDown h.files p = false) →
        ((∀ p ∈ paths, ∃ c, Catalog.load h.files p = .ok c) →
          (Program.validate h s r flags).2 = .ok .done) ∧
        ((∃ p ∈ paths, ∃ e, Catalog.load h.files p = .error e) →
          ∃ e, (Program.validate h s r flags).2 = .error e ∧ 0 < failed ∧
            e.message = Bytes.ofNat failed ++ utf8 " of " ++ Bytes.ofNat paths.length ++
              utf8 " catalogs invalid")) := by
  intro c
  have hsound : c.Sound fs limit paths := (Checks.sound_ofPaths fs limit paths).run moves
  refine ⟨hsound.room, ?_, fun h => Checks.exists_step h fs limit, ?_, ?_⟩
  · intro hlively
    rw [← Checks.left_ofPaths]
    exact hlively.length_le
  · intro o ho
    rcases hsound.outcome ho with h | ⟨h, hc⟩ | h
    · exact .inl h
    · exact .inr (.inl ⟨h, Checks.cancel_of_cancelled rfl hc⟩)
    · exact .inr (.inr h)
  · intro h s r flags hc hw paths failed
    rw [validate_once r hc hw]
    refine ⟨?_, ?_⟩
    · rintro ⟨p, hp, hb⟩
      rw [if_pos (List.any_eq_true.mpr ⟨p, hp, hb⟩)]
    · intro hno
      rw [if_neg (not_any_breaksDown hno)]
      refine ⟨fun hall => if_pos (failures_eq_zero.mpr hall), ?_⟩
      rintro ⟨p, hp, e, he⟩
      have hpos : failed ≠ 0 := by
        rw [Ne, failures_eq_zero]
        intro hall
        obtain ⟨k, hk⟩ := hall p hp
        rw [he] at hk
        cases hk
      rw [if_neg hpos]
      exact ⟨_, rfl, Nat.pos_of_ne_zero hpos, rfl⟩

/-- A catalogue with a list for a key and a merge behind it keeps the verdict on the other one from
being told, though that one is sound and nobody called the work off. -/
theorem outcome_overwhelmed :
    let fs : Files := ⟨[], [([utf8 "a.json"], .file (utf8 "[]")), ([utf8 "c.yaml"], .file
      (utf8 "- \x7bname: f, params: [], description: d, [a]: x, <<: \x7b\x7d\x7d\n"))]⟩
    let c := (Checks.ofPaths [utf8 "/a.json", utf8 "/c.yaml"]).run fs 2
      [.start, .start, .look 1, .look 0, .finish 0, .finish 1]
    Catalog.load fs (utf8 "/a.json") = .ok .empty ∧ c.outcome? = some .brokeDown := by
  decide +kernel

end Validation

end CallAssist
