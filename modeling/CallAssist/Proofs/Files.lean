import CallAssist.Files

/-!
What writing leaves of a file system. Files are only ever made where nothing was, or added to at
their ends, so a path that could be read leads to the same place afterwards and the old content is
still in front.
-/

namespace CallAssist.Files

variable {fs fs' fs'' : Files} {written : List Bytes → Prop} {q : List Bytes} {n : Node}
  {p content : Bytes}

theorem node?_erase_of_ne {place : List Bytes} (h : q ≠ place) :
    (fs.erase place).node? q = fs.node? q := by
  have hlookup (nodes : List (List Bytes × Node)) :
      (nodes.filter (·.1 != place)).lookup q = nodes.lookup q := by
    induction nodes with
    | nil => rfl
    | cons x nodes ih =>
      by_cases hx : x.1 = place
      · have hq : (q == x.1) = false := by simpa [hx] using h
        rw [List.filter_cons_of_neg (by simp [hx]), ih, List.lookup_cons, hq]
      · rw [List.filter_cons_of_pos (by simp [hx]), List.lookup_cons, List.lookup_cons, ih]
  simp only [node?, erase, hlookup]

theorem node?_put_of_ne {place : List Bytes} (h : q ≠ place) :
    (fs.put place n).node? q = fs.node? q := by
  have hq : (q == place) = false := by simpa using h
  have herase : (fs.erase place).node? q = fs.node? q := node?_erase_of_ne h
  rw [← herase]
  simp only [node?, put, List.lookup_cons, hq]

theorem node?_put_self {place : List Bytes} (h : place ≠ []) :
    (fs.put place n).node? place = some n := by
  simp [node?, put, h]

/-- Every directory stays, and every file keeps its content. More may follow the content of a file
at a place that is written to. -/
structure Grows (written : List Bytes → Prop) (fs fs' : Files) : Prop where
  cwd : fs'.cwd = fs.cwd
  directory : ∀ q, fs.node? q = some .directory → fs'.node? q = some .directory
  file : ∀ q content, fs.node? q = some (.file content) →
    ∃ more, fs'.node? q = some (.file (content ++ more)) ∧ (¬ written q → more = [])

namespace Grows

theorem refl (written : List Bytes → Prop) (fs : Files) : fs.Grows written fs :=
  ⟨rfl, fun _ h => h, fun _ content h => ⟨[], by rw [h, List.append_nil], fun _ => rfl⟩⟩

theorem trans (h : fs.Grows written fs') (h' : fs'.Grows written fs'') :
    fs.Grows written fs'' where
  cwd := h'.cwd.trans h.cwd
  directory q hq := h'.directory q (h.directory q hq)
  file q content hq := by
    obtain ⟨more, hmore, hnone⟩ := h.file q content hq
    obtain ⟨rest, hrest, hnone'⟩ := h'.file q _ hmore
    refine ⟨more ++ rest, ?_, fun hw => ?_⟩
    · rw [hrest, List.append_assoc]
    · rw [hnone hw, hnone' hw, List.append_nil]

theorem walk (h : fs.Grows written fs') {place names : List Bytes}
    (hq : fs.walk place names = .ok q) : fs'.walk place names = .ok q := by
  fun_induction Files.walk fs place names with
  | case1 place => exact hq
  | case2 place name rest hnode => cases hq
  | case3 place name rest content hnode => cases hq
  | case4 place name rest hnode hname ih =>
    rw [Files.walk, h.directory place hnode]
    simpa only [if_pos hname] using ih hq
  | case5 place name rest hnode hname hup ih =>
    rw [Files.walk, h.directory place hnode]
    simpa only [if_neg hname, if_pos hup] using ih hq
  | case6 place name rest hnode hname hup hlong => cases hq
  | case7 place name rest hnode hname hup hlong ih =>
    rw [Files.walk, h.directory place hnode]
    simpa only [if_neg hname, if_neg hup, if_neg hlong] using ih hq

theorem place (h : fs.Grows written fs') (hq : fs.place p = .ok q) : fs'.place p = .ok q := by
  have hnames : fs'.names p = fs.names p := by rw [names, h.cwd, names]
  unfold Files.place at hq ⊢
  rw [hnames]
  split at hq <;> rename_i hnull
  · cases hq
  · split at hq <;> rename_i hempty
    · cases hq
    · split at hq <;> rename_i hlong
      · cases hq
      · simpa only [if_neg hnull, if_neg hempty, if_neg hlong] using h.walk hq

end Grows

theorem read_eq_ok_iff :
    fs.read p = .ok content ↔ ∃ q, fs.place p = .ok q ∧ fs.node? q = some (.file content) := by
  simp only [read, find]
  cases hplace : fs.place p with
  | error c => simp [bind, Except.bind]
  | ok q =>
    cases hnode : fs.node? q with
    | none => simp [bind, Except.bind, hnode]
    | some n => cases n <;> simp [bind, Except.bind, hnode]

/-- What could be read can be read again, with what was added behind it. -/
theorem Grows.read (h : fs.Grows written fs') (hread : fs.read p = .ok content) :
    ∃ q more, fs.place p = .ok q ∧ fs'.read p = .ok (content ++ more) ∧
      (¬ written q → more = []) := by
  obtain ⟨q, hplace, hnode⟩ := read_eq_ok_iff.mp hread
  obtain ⟨more, hmore, hnone⟩ := h.file q content hnode
  exact ⟨q, more, hplace, read_eq_ok_iff.mpr ⟨q, h.place hplace, hmore⟩, hnone⟩

/-- A node at a place where nothing was takes nothing away. -/
theorem grows_put {place : List Bytes} (h : fs.node? place = none) :
    fs.Grows written (fs.put place n) := by
  have hne {q : List Bytes} {m : Node} (hq : fs.node? q = some m) : q ≠ place := by
    rintro rfl
    rw [h] at hq
    cases hq
  refine ⟨rfl, fun q hq => ?_, fun q content hq => ⟨[], ?_, fun _ => rfl⟩⟩
  · rw [node?_put_of_ne (hne hq), hq]
  · rw [node?_put_of_ne (hne hq), hq, List.append_nil]

/-- A file put over a file, with the old content in front, adds to that file alone. -/
theorem grows_put_file {place : List Bytes} {old : Bytes}
    (h : fs.node? place = some (.file old)) (text : Bytes) (hwritten : written place) :
    fs.Grows written (fs.put place (.file (old ++ text))) := by
  have hne : place ≠ [] := by
    rintro rfl
    cases h
  refine ⟨rfl, fun q hq => ?_, fun q content hq => ?_⟩
  · have hother : q ≠ place := by
      rintro rfl
      rw [h] at hq
      cases hq
    rw [node?_put_of_ne hother, hq]
  · by_cases heq : q = place
    · subst heq
      obtain rfl := Node.file.inj (Option.some.inj (h.symm.trans hq))
      exact ⟨text, node?_put_self hne, fun hw => absurd hwritten hw⟩
    · exact ⟨[], by rw [node?_put_of_ne heq, hq, List.append_nil], fun _ => rfl⟩

theorem makeDirectory_grows {asked : Bytes} (h : fs.makeDirectory asked p = .ok fs') :
    fs.Grows written fs' := by
  unfold makeDirectory at h
  split at h
  · cases h
  · split at h
    · obtain rfl := Except.ok.inj h
      exact .refl written fs
    · cases h
    · rename_i hnode
      obtain rfl := Except.ok.inj h
      exact grows_put hnode

private theorem go_grows {fuel : Nat} (h : makeDirectories.go fs fuel p = .ok fs') :
    fs.Grows written fs' := by
  induction fuel generalizing fs fs' p with
  | zero =>
    obtain rfl := Except.ok.inj h
    exact .refl written fs
  | succ fuel ih =>
    rw [makeDirectories.go] at h
    split at h
    · obtain rfl := Except.ok.inj h
      exact .refl written fs
    · cases h
    · dsimp only at h
      split at h
      · rename_i before _ hcut
        cases habove : makeDirectories.go fs fuel (before ++ [Path.slash]) with
        | error e =>
          rw [habove] at h
          cases h
        | ok above =>
          rw [habove] at h
          exact (ih habove).trans (makeDirectory_grows h)
      · exact makeDirectory_grows h

theorem makeDirectories_grows (h : fs.makeDirectories p = .ok fs') : fs.Grows written fs' :=
  go_grows h

theorem openAppend_grows (h : fs.openAppend p = .ok fs') : fs.Grows written fs' := by
  unfold openAppend at h
  split at h
  · cases h
  · split at h
    · cases h
    · obtain rfl := Except.ok.inj h
      exact .refl written fs
    · rename_i hnode
      split at h
      · obtain rfl := Except.ok.inj h
        exact grows_put hnode
      · cases h
      · cases h

theorem exists_place_of_openAppend (h : fs.openAppend p = .ok fs') :
    ∃ q, fs.place p = .ok q := by
  unfold openAppend at h
  split at h
  · cases h
  · exact ⟨_, ‹_›⟩

/-- Only the file that is added to grows. -/
theorem append_grows (text : Bytes) (hwritten : ∀ q, fs.place p = .ok q → written q) :
    fs.Grows written (fs.append p text) := by
  unfold append
  split
  · exact .refl written fs
  · rename_i place hplace
    split
    · rename_i old hnode
      exact grows_put_file hnode text (hwritten place hplace)
    · exact .refl written fs

end CallAssist.Files
