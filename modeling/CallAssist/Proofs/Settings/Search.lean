import CallAssist.Proofs.Settings.Precedence

/-! The search for the root of a project. Going up from any path comes to a directory that is above
itself, so the search ends, and what it finds is the nearest directory with a settings file. The
search that looks into the first ten directories only agrees with it as far as it goes. -/

namespace CallAssist

namespace Settings

/-- How many steps up it takes to the first directory that is above itself. -/
structure IsTop (start : Bytes) (top : Nat) : Prop where
  fixed : Path.directory (Path.directory^[top] start) = Path.directory^[top] start
  moving : ∀ i < top, Path.directory (Path.directory^[i] start) ≠ Path.directory^[i] start

section Top

private theorem exists_fixed (start : Bytes) : ∃ n ≤ Path.height start,
    Path.directory (Path.directory^[n] start) = Path.directory^[n] start := by
  induction hn : Path.height start using Nat.strong_induction_on generalizing start with
  | _ n ih =>
    by_cases hup : Path.directory start = start
    · exact ⟨0, Nat.zero_le n, hup⟩
    · have hlower := Path.height_directory_lt hup
      obtain ⟨k, hk, hfixed⟩ := ih _ (hn ▸ hlower) (Path.directory start) rfl
      refine ⟨k + 1, by omega, ?_⟩
      rw [Function.iterate_succ_apply]
      exact hfixed

/-- There is a top above every path, no further up than the path is long. -/
theorem exists_isTop (start : Bytes) : ∃ top ≤ max start.length 1, IsTop start top := by
  classical
  obtain ⟨n, hn, hfixed⟩ := exists_fixed start
  have hex : ∃ n, Path.directory (Path.directory^[n] start) = Path.directory^[n] start :=
    ⟨n, hfixed⟩
  refine ⟨Nat.find hex, ?_, Nat.find_spec hex, fun i hi => Nat.find_min hex hi⟩
  exact (Nat.find_min' hex hfixed).trans (hn.trans (Path.height_le start))

/-- From the top on the sequence of directories stays where it is. -/
theorem IsTop.iterate_eq {start : Bytes} {top : Nat} (h : IsTop start top) {i : Nat}
    (hi : top ≤ i) : Path.directory^[i] start = Path.directory^[top] start := by
  obtain ⟨k, rfl⟩ := Nat.exists_eq_add_of_le' hi
  rw [Function.iterate_add_apply]
  exact Function.iterate_fixed h.fixed k

theorem IsNearest.le_top {fs : Files} {start : Bytes} {i top : Nat} (h : IsNearest fs start i)
    (htop : IsTop start top) : i ≤ top := by
  by_contra hlt
  apply h.nearer top (Nat.lt_of_not_le hlt)
  rw [← htop.iterate_eq (Nat.le_of_not_le hlt)]
  exact h.holds

end Top

section Search

theorem IsNearest.projectRoot?_eq {fs : Files} {start : Bytes} {i : Nat}
    (h : IsNearest fs start i) : projectRoot? fs start = some (Path.directory^[i] start) := by
  induction i generalizing start with
  | zero => rw [projectRoot?, if_pos ((fileIn?_isSome fs start).mpr h.holds)]; rfl
  | succ i ih =>
    have hhere : ¬ HoldsFile fs start := h.nearer 0 (Nat.succ_pos i)
    have hup : Path.directory start ≠ start := by
      intro hfixed
      have hholds := h.holds
      rw [Function.iterate_fixed hfixed] at hholds
      exact hhere hholds
    have habove : IsNearest fs (Path.directory start) i :=
      ⟨h.holds, fun j hj => h.nearer (j + 1) (Nat.succ_lt_succ hj)⟩
    rw [projectRoot?, if_neg (mt (fileIn?_isSome fs start).mp hhere), if_neg hup, ih habove,
      Function.iterate_succ_apply]

theorem projectRoot?_eq_none {fs : Files} {start : Bytes}
    (h : ∀ i, ¬ HoldsFile fs (Path.directory^[i] start)) : projectRoot? fs start = none := by
  fun_induction projectRoot? fs start with
  | case1 start hfile => exact absurd ((fileIn?_isSome fs start).mp hfile) (h 0)
  | case2 start _ _ => rfl
  | case3 start _ _ ih => exact ih fun i => h (i + 1)

end Search

/-- Both searches from any path in any file system: the directories above it end at a top, and the
nearest one of them that holds a settings file is found, by the shorter search if it is one of the
first ten; where there is none, nothing is found. -/
theorem searches_find_nearest (fs : Files) (start : Bytes) :
    ∃ top ≤ max start.length 1, IsTop start top ∧
      ((∃ i ≤ top, IsNearest fs start i ∧
          projectRoot? fs start = some (Path.directory^[i] start) ∧
          nearProjectRoot? fs start = if i < 10 then some (Path.directory^[i] start) else none) ∨
        (∀ i ≤ top, ¬ HoldsFile fs (Path.directory^[i] start)) ∧
          projectRoot? fs start = none ∧ nearProjectRoot? fs start = none) := by
  classical
  obtain ⟨top, hbound, htop⟩ := exists_isTop start
  refine ⟨top, hbound, htop, ?_⟩
  by_cases hex : ∃ i, HoldsFile fs (Path.directory^[i] start)
  · left
    have hnearest : IsNearest fs start (Nat.find hex) :=
      ⟨Nat.find_spec hex, fun j hj => Nat.find_min hex hj⟩
    exact ⟨Nat.find hex, hnearest.le_top htop, hnearest, hnearest.projectRoot?_eq,
      hnearest.nearProjectRoot?_eq⟩
  · right
    have hnone : ∀ i, ¬ HoldsFile fs (Path.directory^[i] start) := not_exists.mp hex
    exact ⟨fun i _ => hnone i, projectRoot?_eq_none hnone,
      nearProjectRoot?_eq_none fun i _ => hnone i⟩

end Settings

end CallAssist
