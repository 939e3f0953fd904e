import CallAssist.Proofs.Server.History
import CallAssist.Proofs.Settings.Precedence

/-! The catalogue of a workspace, as a run in its root and as a server that opens it see it. The
built-in values lie below the file for a run and are missing for the server, so a key in another
letter case is read by the server alone. -/

namespace CallAssist

open Command (Parsed)

namespace Settings

/-- Settings that come from a file alone: no variable and no flag is for them. -/
structure FileOnly (env : List (Bytes × Bytes)) (flags : Option Parsed) : Prop where
  no_variable : ∀ e ∈ env, ¬ variableFront <+: e.1
  no_flag : ∀ p ∈ flags, p.values = []

variable {fs : Files} {env : List (Bytes × Bytes)} {flags : Option Parsed}

theorem FileOnly.variableKey?_eq_none (h : FileOnly env flags) {e : Bytes × Bytes} (he : e ∈ env) :
    variableKey? e.1 = none := by
  rw [variableKey?, Bytes.dropFront?_eq_none (h.no_variable e he), Option.map_none]

theorem FileOnly.plainNames (h : FileOnly env flags) : PlainNames env where
  no_point := fun e he hfront => absurd hfront (h.no_variable e he)
  distinct := by
    rw [List.filterMap_eq_nil_iff.mpr fun e he => h.variableKey?_eq_none he]
    exact List.nodup_nil

theorem FileOnly.givenFlag?_eq_none (h : FileOnly env flags) (k : Item) :
    givenFlag? flags k = none := by
  cases flags with
  | none => rfl
  | some p => rw [givenFlag?, Option.bind_some, h.no_flag p rfl, List.lookup_nil]

/-- Without variables and flags the file is asked, and then the built-in values. -/
theorem FileOnly.used_eq (h : FileOnly env flags) (l : Layer) (k : Item) :
    used flags env l k = (l.lookup k.key).getD k.builtin := by
  have hflags : ∀ p ∈ flags, OneFlagEach (p.values.map Prod.fst) := by
    intro p hp name hn
    rw [h.no_flag p hp] at hn
    cases hn
  have hvariable : ∀ e ∈ env, ¬ IsVariable k e.1 := by
    intro e he hk
    cases (h.variableKey?_eq_none he).symm.trans (isVariable_iff.mp hk)
  rw [← chosen_iff hflags h.plainNames]
  cases hl : l.lookup k.key with
  | some v => exact .file (h.givenFlag?_eq_none k) hvariable hl
  | none => exact .builtin (h.givenFlag?_eq_none k) hvariable hl

/-- The settings that a workspace has are read from its file. -/
theorem Project.exists_layer {dir : Bytes} {project : Project}
    (h : Project.load fs dir = .ok (some project)) :
    ∃ path l, fileIn? fs dir = some path ∧ Layer.ofFile fs path = .ok l ∧
      Project.ofLayer? l = some project := by
  rw [Project.load] at h
  split at h
  · cases h
  · next path hpath =>
    split at h
    · cases h
    · next l hl =>
      split at h
      · cases h
      · next hof =>
        cases h
        exact ⟨path, l, hpath, hl, hof⟩

theorem Project.text?_of_ofLayer? {l : Layer} {project : Project}
    (h : Project.ofLayer? l = some project) :
    l.text? "catalog_path" = some project.catalogPath := by
  obtain ⟨t, ht, h⟩ := Option.bind_eq_some_iff.mp h
  obtain ⟨level, _, h⟩ := Option.bind_eq_some_iff.mp h
  rw [← Option.some.inj h]
  exact ht

/-- In the root of a workspace a run has the catalogue that stands in the file under exactly its
key, or else the built-in one. -/
theorem FileOnly.load_catalogPath (h : FileOnly env flags) {path : Bytes} {l : Layer} {s : Settings}
    (hpath : fileIn? fs fs.cwd = some path) (hl : Layer.ofFile fs path = .ok l)
    (hs : (load fs env [] flags).settings = .ok s) :
    ∃ t, textOf? ((l.lookup Item.catalogPath.key).getD Item.catalogPath.builtin) = some t ∧
      s.catalogPath = resolvePath t fs.cwd := by
  have hholds : HoldsFile fs fs.cwd := by
    rw [← fileIn?_isSome, hpath]
    rfl
  have hroot : inferRoot fs [] = fs.cwd := by
    apply isRoot_iff.mp
    exact .nearest rfl (Nat.zero_lt_succ 9) hholds fun j hj => absurd hj (Nat.not_lt_zero j)
  rw [load_eq_ok, hroot] at hs
  obtain ⟨l', hl', hs⟩ := hs
  obtain rfl : l = l' := by
    cases hl' with
    | read found content =>
      cases hpath.symm.trans (isFile_iff.mp found)
      exact Except.ok.inj (hl.symm.trans content)
    | missing none_there => cases hpath.symm.trans (isFile_iff.mp none_there)
  obtain ⟨hprojectRoot, hmade, _⟩ := ofLayers_eq_ok.mp hs
  obtain ⟨t, ht, hcatalog⟩ := hmade.catalogPath
  rw [h.used_eq] at ht
  refine ⟨t, ht, ?_⟩
  rw [hprojectRoot] at hcatalog
  generalize s.catalogPath = q at hcatalog
  cases hcatalog with
  | flag given some_path => cases (h.givenFlag?_eq_none _).symm.trans given
  | setting not_given set => exact (readFrom_iff.mp set).symm

end Settings

namespace Server

open Settings

variable {fs : Files} {env : List (Bytes × Bytes)} {flags : Option Parsed}

/-- A server that opens a workspace takes the catalogue that the workspace sets, in whatever letter
case, or else its own. -/
theorem catalogPathFor_eq {v : Server} {p : InitializeParams} {project : Project}
    (hroot : Uri.toPath p.rootUri = fs.cwd) (hcwd : fs.cwd ≠ []) (hp : p.catalogPath = none)
    (hproject : Project.load fs fs.cwd = .ok (some project)) :
    v.catalogPathFor fs p = if project.catalogPath = [] then v.catalogPath
      else resolvePath project.catalogPath fs.cwd := by
  have hempty : fs.cwd.isEmpty = false := by simpa using hcwd
  have hsettings : projectSettings fs { v with projectRoot := Uri.toPath p.rootUri } =
      .ok (some project) := by
    simp only [projectSettings, hroot, hempty, Bool.false_eq_true, if_false, hproject]
  rw [catalogPathFor, hsettings, hp, chooseCatalog]
  by_cases hpinned : project.catalogPath = []
  · simp [hpinned, Except.toOption]
  · simp [hpinned, Except.toOption, fromRoot, resolvePath, hroot, hcwd]

/-- A run and a server agree on the catalogue of a workspace unless the file has the key for it in
other letter cases only and does not name the built-in one. -/
theorem catalogPathFor_eq_iff {s : Settings} {project : Project} {v : Server}
    {p : InitializeParams} (hcwd : Path.isAbsolute fs.cwd = true) (honly : FileOnly env flags)
    (hs : (load fs env [] flags).settings = .ok s)
    (hproject : Project.load fs fs.cwd = .ok (some project)) (hv : v.catalogPath = s.catalogPath)
    (hroot : Uri.toPath p.rootUri = fs.cwd) (hp : p.catalogPath = none) :
    ∃ l, IsFileLayer fs [] fs.cwd l ∧ (v.catalogPathFor fs p = s.catalogPath ↔
      (∃ value, l.lookup (utf8 "catalog_path") = some value) ∨ project.catalogPath = [] ∨
        resolvePath project.catalogPath fs.cwd =
          resolvePath (utf8 "data/nvgt_functions.json") fs.cwd) := by
  have hcwd' : fs.cwd ≠ [] := by
    intro hnil
    rw [hnil] at hcwd
    cases hcwd
  obtain ⟨path, l, hpath, hl, hof⟩ := Project.exists_layer hproject
  obtain ⟨t, ht, hcatalog⟩ := honly.load_catalogPath hpath hl hs
  refine ⟨l, .read (isFile_iff.mpr hpath) hl, ?_⟩
  rw [catalogPathFor_eq hroot hcwd' hp hproject, hv, hcatalog]
  change textOf? ((l.lookup (utf8 "catalog_path")).getD _) = _ at ht
  cases hkey : l.lookup (utf8 "catalog_path") with
  | some value =>
    rw [hkey, Option.getD_some] at ht
    have hsame : t = project.catalogPath := by
      have htext := Project.text?_of_ofLayer? hof
      rw [Layer.text?, Layer.find?_of_lookup hkey] at htext
      exact Option.some.inj (ht.symm.trans htext)
    refine iff_of_true ?_ (.inl ⟨value, rfl⟩)
    rw [hsame]
    exact ite_eq_right_iff.mpr fun h => rfl
  | none =>
    rw [hkey, Option.getD_none] at ht
    obtain rfl : utf8 "data/nvgt_functions.json" = t := Option.some.inj ht
    by_cases hpinned : project.catalogPath = []
    · simp [hpinned]
    · simp [hpinned]

private def workspaceFiles (settings : String) : Files where
  cwd := utf8 "/w"
  nodes := [([utf8 "w"], .directory), ([utf8 "w", utf8 "nvgtls.yaml"], .file (utf8 settings))]

private def workspaceParams : InitializeParams := ⟨0, utf8 "file:///w", none⟩

private def twoKeys : Files := workspaceFiles "CATALOG_PATH: d.json\ncatalog_path: c.json\n"

/-- The exact key is read before one in another letter case. -/
theorem catalogPathFor_eq_iff_two_keys :
    ∃ l, IsFileLayer twoKeys [] twoKeys.cwd l ∧
      ((fresh (utf8 "/w/c.json") [] .info true).catalogPathFor twoKeys workspaceParams =
          utf8 "/w/c.json" ↔
        (∃ value, l.lookup (utf8 "catalog_path") = some value) ∨ utf8 "c.json" = [] ∨
          resolvePath (utf8 "c.json") twoKeys.cwd =
            resolvePath (utf8 "data/nvgt_functions.json") twoKeys.cwd) := by
  have honly : FileOnly [] none := by
    refine ⟨?_, ?_⟩
    · intro e he
      cases he
    · intro p hp
      cases hp
  have hs : (load twoKeys [] [] none).settings = .ok
      ⟨utf8 "/w/c.json", utf8 "info", [], false, utf8 "auto", utf8 "/w"⟩ := by
    decide +kernel
  have hproject : Project.load twoKeys twoKeys.cwd = .ok (some ⟨utf8 "c.json", []⟩) := by
    decide +kernel
  exact catalogPathFor_eq_iff (by decide +kernel) honly hs hproject rfl (by decide +kernel) rfl

private def respelled : Files := workspaceFiles "Catalog_Path: x.json\n"

/-- A key in another letter case sends a run and a server to different catalogues. -/
theorem catalogPathFor_respelled :
    (load respelled [] [] none).settings = .ok
        ⟨utf8 "/w/data/nvgt_functions.json", utf8 "info", [], false, utf8 "auto", utf8 "/w"⟩ ∧
      Project.load respelled respelled.cwd = .ok (some ⟨utf8 "x.json", []⟩) ∧
      (fresh (utf8 "/w/data/nvgt_functions.json") [] .info true).catalogPathFor respelled
          workspaceParams = utf8 "/w/x.json" ∧
      utf8 "/w/x.json" ≠ utf8 "/w/data/nvgt_functions.json" := by
  decide +kernel

end Server

end CallAssist
