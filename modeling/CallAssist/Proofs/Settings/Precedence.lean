import CallAssist.Proofs.Settings.Sources
import Mathlib.Data.Nat.Find
import Mathlib.Logic.Function.Iterate

/-! The settings of a run. They are those that the sources have in their order of precedence, with
paths read from the root of the project. -/

namespace CallAssist

open Command (Parsed)

namespace Settings

section Root

def HoldsFile (fs : Files) (dir : Bytes) : Prop :=
  fs.has (Path.join [dir, utf8 "nvgtls.yaml"]) = true ∨
    fs.has (Path.join [dir, utf8 "nvgtls.yml"]) = true

/-- The root of a project: the directory of a file given by name, else the nearest one that holds
a settings file of the working directory and the nine above it, else the working directory. -/
inductive IsRoot (fs : Files) (file : Bytes) : Bytes → Prop
  | given (name : file ≠ []) : IsRoot fs file (Path.directory (Path.absolute fs.cwd file))
  | nearest {i : Nat} (no_name : file = []) (near : i < 10)
      (holds : HoldsFile fs (Path.directory^[i] fs.cwd))
      (nearer : ∀ j < i, ¬ HoldsFile fs (Path.directory^[j] fs.cwd)) :
      IsRoot fs file (Path.directory^[i] fs.cwd)
  | nowhere (no_name : file = [])
      (none_near : ∀ i < 10, ¬ HoldsFile fs (Path.directory^[i] fs.cwd)) : IsRoot fs file fs.cwd

theorem fileIn?_isSome (fs : Files) (dir : Bytes) : (fileIn? fs dir).isSome ↔ HoldsFile fs dir := by
  rw [fileIn?, List.find?_isSome]
  simp [fileNames, HoldsFile]

private theorem find?_ancestors (p : Bytes → Bool) (n : Nat) (dir : Bytes) :
    (ancestors n dir).find? p = ((List.range n).map fun i => Path.directory^[i] dir).find? p := by
  induction n generalizing dir with
  | zero => rfl
  | succ n ih =>
    rw [ancestors, List.range_succ_eq_map, List.map_cons, List.map_map, List.find?_cons,
      List.find?_cons, Function.iterate_zero, id_eq]
    cases hp : p dir with
    | true => rfl
    | false =>
      by_cases hd : Path.directory dir = dir
      · rw [if_pos (beq_iff_eq.mpr hd), List.find?_nil, eq_comm, List.find?_eq_none]
        intro d hmem
        obtain ⟨i, _, rfl⟩ := List.mem_map.mp hmem
        have hfix : Path.directory^[i + 1] dir = dir := Function.iterate_fixed hd (i + 1)
        simp [hfix, hp]
      · rw [if_neg (by simpa using hd), ih]
        rfl

private theorem nearProjectRoot?_eq (fs : Files) (dir : Bytes) : nearProjectRoot? fs dir =
    ((List.range 10).find? fun i => (fileIn? fs (Path.directory^[i] dir)).isSome).map
      fun i => Path.directory^[i] dir := by
  rw [nearProjectRoot?, find?_ancestors, List.find?_map]
  rfl

/-- How many steps up it takes to the first directory that holds a settings file. -/
structure IsNearest (fs : Files) (start : Bytes) (i : Nat) : Prop where
  holds : HoldsFile fs (Path.directory^[i] start)
  nearer : ∀ j < i, ¬ HoldsFile fs (Path.directory^[j] start)

/-- The search near by finds the nearest directory if it is one of the first ten. -/
theorem IsNearest.nearProjectRoot?_eq {fs : Files} {start : Bytes} {i : Nat}
    (h : IsNearest fs start i) :
    nearProjectRoot? fs start = if i < 10 then some (Path.directory^[i] start) else none := by
  have hnearer (j : Nat) (hj : j < i) : (fileIn? fs (Path.directory^[j] start)).isSome = false := by
    rw [Bool.eq_false_iff, ne_eq, fileIn?_isSome]
    exact h.nearer j hj
  rw [Settings.nearProjectRoot?_eq]
  split_ifs with hi
  · have hfound : (List.range 10).find? (fun j => (fileIn? fs (Path.directory^[j] start)).isSome) =
        some i := by
      rw [List.find?_range_eq_some]
      refine ⟨(fileIn?_isSome _ _).mpr h.holds, List.mem_range.mpr hi, fun j hj => ?_⟩
      rw [hnearer j hj]
      rfl
    rw [hfound]
    rfl
  · rw [Option.map_eq_none_iff, List.find?_eq_none]
    intro j hj
    rw [hnearer j ((List.mem_range.mp hj).trans_le (Nat.le_of_not_lt hi))]
    exact Bool.false_ne_true

theorem nearProjectRoot?_eq_none {fs : Files} {start : Bytes}
    (h : ∀ i < 10, ¬ HoldsFile fs (Path.directory^[i] start)) :
    nearProjectRoot? fs start = none := by
  rw [nearProjectRoot?_eq, Option.map_eq_none_iff, List.find?_eq_none]
  intro i hi
  exact mt (fileIn?_isSome _ _).mp (h i (List.mem_range.mp hi))

theorem isRoot_iff {fs : Files} {file r : Bytes} : IsRoot fs file r ↔ inferRoot fs file = r := by
  have hunnamed (hfile : file = []) :
      inferRoot fs file = (nearProjectRoot? fs fs.cwd).getD fs.cwd := by
    rw [inferRoot, if_pos (by simpa using hfile)]
  constructor
  · intro h
    cases h with
    | given name => rw [inferRoot, if_neg (by simpa using name)]
    | nearest no_name near holds nearer =>
      rw [hunnamed no_name, IsNearest.nearProjectRoot?_eq ⟨holds, nearer⟩, if_pos near,
        Option.getD_some]
    | nowhere no_name none_near =>
      rw [hunnamed no_name, nearProjectRoot?_eq_none none_near, Option.getD_none]
  · rintro rfl
    by_cases hfile : file = []
    · rw [hunnamed hfile]
      by_cases hex : ∃ i, i < 10 ∧ HoldsFile fs (Path.directory^[i] fs.cwd)
      · classical
        obtain ⟨near, holds⟩ := Nat.find_spec hex
        have nearer : ∀ j < Nat.find hex, ¬ HoldsFile fs (Path.directory^[j] fs.cwd) :=
          fun j hj hholds => Nat.find_min hex hj ⟨hj.trans near, hholds⟩
        rw [IsNearest.nearProjectRoot?_eq ⟨holds, nearer⟩, if_pos near, Option.getD_some]
        exact .nearest hfile near holds nearer
      · have none_near : ∀ i < 10, ¬ HoldsFile fs (Path.directory^[i] fs.cwd) :=
          fun i hi hholds => hex ⟨i, hi, hholds⟩
        rw [nearProjectRoot?_eq_none none_near, Option.getD_none]
        exact .nowhere hfile none_near
    · rw [inferRoot, if_neg (by simpa using hfile)]
      exact .given hfile

end Root

section File

/-- The settings file: the one given by name, else that of the root, `nvgtls.yaml` before
`nvgtls.yml`. -/
inductive IsFile (fs : Files) (file root : Bytes) : Option Bytes → Prop
  | given (name : file ≠ []) : IsFile fs file root (some file)
  | yaml (no_name : file = []) (has : fs.has (Path.join [root, utf8 "nvgtls.yaml"]) = true) :
      IsFile fs file root (some (Path.join [root, utf8 "nvgtls.yaml"]))
  | yml (no_name : file = []) (no_yaml : fs.has (Path.join [root, utf8 "nvgtls.yaml"]) = false)
      (has : fs.has (Path.join [root, utf8 "nvgtls.yml"]) = true) :
      IsFile fs file root (some (Path.join [root, utf8 "nvgtls.yml"]))
  | missing (no_name : file = []) (none_there : ¬ HoldsFile fs root) : IsFile fs file root none

theorem isFile_iff {fs : Files} {file root : Bytes} {path : Option Bytes} :
    IsFile fs file root path ↔ file? fs file root = path := by
  have hin : fileIn? fs root =
      if fs.has (Path.join [root, utf8 "nvgtls.yaml"]) then
        some (Path.join [root, utf8 "nvgtls.yaml"])
      else if fs.has (Path.join [root, utf8 "nvgtls.yml"]) then
        some (Path.join [root, utf8 "nvgtls.yml"])
      else none := by
    rw [fileIn?, fileNames]
    simp only [List.map_cons, List.map_nil, List.find?_cons, List.find?_nil]
    cases fs.has (Path.join [root, utf8 "nvgtls.yaml"]) <;>
      cases fs.has (Path.join [root, utf8 "nvgtls.yml"]) <;> rfl
  rw [file?, hin]
  constructor
  · intro h
    cases h with
    | given name => rw [if_neg (by simpa using name)]
    | yaml no_name has => rw [if_pos (by simpa using no_name), if_pos has]
    | yml no_name no_yaml has =>
      rw [if_pos (by simpa using no_name), if_neg (by simp [no_yaml]), if_pos has]
    | missing no_name none_there =>
      obtain ⟨no_yaml, no_yml⟩ := not_or.mp none_there
      rw [if_pos (by simpa using no_name), if_neg no_yaml, if_neg no_yml]
  · rintro rfl
    by_cases hfile : file = []
    · rw [if_pos (by simpa using hfile)]
      split_ifs with no_yaml no_yml
      · exact .yaml hfile no_yaml
      · exact .yml hfile (by simpa using no_yaml) no_yml
      · exact .missing hfile (not_or.mpr ⟨no_yaml, no_yml⟩)
    · rw [if_neg (by simpa using hfile)]
      exact .given hfile

/-- The layer of the settings file, an empty one where there is no file. -/
inductive IsFileLayer (fs : Files) (file root : Bytes) : Layer → Prop
  | read {path : Bytes} {l : Layer} (found : IsFile fs file root (some path))
      (content : Layer.ofFile fs path = .ok l) : IsFileLayer fs file root l
  | missing (none_there : IsFile fs file root none) : IsFileLayer fs file root []

end File

section Paths

/-- A path as it is read from the root: an empty or an absolute one is kept. -/
inductive ReadFrom (root : Bytes) : Bytes → Bytes → Prop
  | empty : ReadFrom root [] []
  | absolute {path : Bytes} (rooted : Path.isAbsolute path = true) : ReadFrom root path path
  | relative {path : Bytes} (some_path : path ≠ []) (not_rooted : Path.isAbsolute path = false) :
      ReadFrom root path (Path.join [root, path])

theorem readFrom_iff {root path q : Bytes} : ReadFrom root path q ↔ resolvePath path root = q := by
  rw [resolvePath]
  constructor
  · intro h
    cases h with
    | empty => rfl
    | absolute rooted => rw [if_pos (by simp [rooted])]
    | relative some_path not_rooted => rw [if_neg (by simp [some_path, not_rooted])]
  · rintro rfl
    split_ifs with h
    · rcases Bool.or_eq_true_iff.mp h with h | h
      · rw [List.isEmpty_iff.mp h]
        exact .empty
      · exact .absolute h
    · rw [Bool.or_eq_true, not_or] at h
      exact .relative (by simpa using h.1) (by simpa using h.2)

/-- The catalogue: one that a flag names, read from the working directory, else the one that is
set, read from the root. -/
inductive IsCatalog (fs : Files) (flags : Option Parsed) (root path : Bytes) : Bytes → Prop
  | flag {p : Bytes} (given : givenFlag? flags .catalogPath = some (.text p)) (some_path : p ≠ []) :
      IsCatalog fs flags root path (Path.absolute fs.cwd p)
  | setting {q : Bytes} (not_given : ∀ p, givenFlag? flags .catalogPath = some (.text p) → p = [])
      (set : ReadFrom root path q) : IsCatalog fs flags root path q

private theorem flagCatalog?_eq (fs : Files) (flags : Option Parsed) : flagCatalog? fs flags =
    match givenFlag? flags .catalogPath with
    | some (.text path) => if path.isEmpty then none else some (Path.absolute fs.cwd path)
    | _ => none := by
  cases flags with
  | none => rfl
  | some p =>
    have hget : givenFlag? (some p) .catalogPath = p.values.lookup (utf8 "catalog") := rfl
    rw [hget, flagCatalog?, Option.bind_some, Command.Parsed.text?]
    cases p.values.lookup (utf8 "catalog") with
    | none => rfl
    | some v => cases v <;> rfl

theorem isCatalog_iff {fs : Files} {flags : Option Parsed} {root path q : Bytes} :
    IsCatalog fs flags root path q ↔
      (flagCatalog? fs flags).getD (resolvePath path root) = q := by
  rw [flagCatalog?_eq]
  constructor
  · intro h
    cases h with
    | flag given some_path =>
      rw [given]
      simp [some_path]
    | setting not_given set =>
      rw [← readFrom_iff.mp set]
      split
      · next p hp => simp [not_given p hp]
      · rfl
  · rintro rfl
    split
    · next p hp =>
      by_cases hempty : p = []
      · rw [if_pos (by simpa using hempty)]
        refine .setting (fun p' hp' => ?_) (readFrom_iff.mpr rfl)
        rw [hp, hempty] at hp'
        cases hp'
        rfl
      · rw [if_neg (by simpa using hempty)]
        exact .flag hp hempty
    · next hother => exact .setting (fun p hp => absurd hp (hother p)) (readFrom_iff.mpr rfl)

end Paths

section Run

/-- Settings made of the values for them and of a root. -/
structure MadeOf (fs : Files) (flags : Option Parsed) (values : Item → Yaml.Value) (s : Settings) :
    Prop where
  catalogPath : ∃ path, textOf? (values .catalogPath) = some path ∧
    IsCatalog fs flags s.projectRoot path s.catalogPath
  logLevel : textOf? (values .logLevel) = some s.logLevel
  logFile : ∃ path, textOf? (values .logFile) = some path ∧ ReadFrom s.projectRoot path s.logFile
  verbose : boolOf? (values .verbose) = some s.verbose
  output : textOf? (values .output) = some s.output
  unused : (textOf? (values .unused)).isSome

def Valid (s : Settings) : Prop :=
  (∃ level, Level.parse s.logLevel = .ok level) ∧
    s.output ∈ [utf8 "auto", utf8 "text", utf8 "markdown", utf8 "json"]

theorem validate_eq_ok {s : Settings} : s.validate = .ok () ↔ s.Valid := by
  rw [validate, Valid]
  cases hl : Level.parse s.logLevel with
  | error e => simp
  | ok level =>
    have hknown : outputs.contains s.output = true ↔
        s.output ∈ [utf8 "auto", utf8 "text", utf8 "markdown", utf8 "json"] := List.contains_iff_mem
    by_cases h : outputs.contains s.output = true
    · simp only [if_pos h, hknown.mp h, and_true]
      exact iff_of_true trivial ⟨level, rfl⟩
    · simp only [if_neg h, mt hknown.mpr h, and_false, reduceCtorEq]

variable {fs : Files} {env : List (Bytes × Bytes)} {file : Bytes} {flags : Option Parsed}

private theorem find?_stack (l : Layer) {k : Item} (h : k ≠ .unused) :
    (stack flags env l).find? k.key = some (used flags env l k) := by
  obtain ⟨v, hv⟩ := exists_lookup_stack l h
  rw [used, Layer.find?_of_lookup hv, Option.getD_some]

private theorem text?_stack (l : Layer) {name : String} {k : Item} (h : utf8 name = k.key) :
    (stack flags env l).text? name = textOf? (used flags env l k) := by
  rw [Layer.text?, h]
  by_cases hk : k = .unused
  · rw [used, hk]
    cases (stack flags env l).find? Item.unused.key with
    | none => rfl
    | some v => rfl
  · rw [find?_stack l hk]

private theorem bool?_stack (l : Layer) :
    (stack flags env l).bool? "verbose" = boolOf? (used flags env l .verbose) := by
  rw [Layer.bool?, show utf8 "verbose" = Item.verbose.key from rfl, find?_stack l (by decide)]

theorem ofLayers_eq_ok {root : Bytes} {l : Layer} {s : Settings} :
    ofLayers fs flags root (stack flags env l) = .ok s ↔
      s.projectRoot = root ∧ MadeOf fs flags (used flags env l) s ∧ s.Valid := by
  rw [ofLayers, text?_stack l (k := .catalogPath) rfl, text?_stack l (k := .logLevel) rfl,
    text?_stack l (k := .logFile) rfl, bool?_stack, text?_stack l (k := .output) rfl,
    unusedKey, text?_stack l (k := .unused) rfl]
  constructor
  · intro h
    split at h
    · cases h
    · next s' hs =>
      simp only [Option.bind_eq_bind, Option.bind_eq_some_iff] at hs
      obtain ⟨path, hpath, level, hlevel, logFile, hlog, verbose, hverbose, output, hout, t, ht,
        hs⟩ := hs
      obtain rfl := Option.some.inj hs
      split at h
      · cases h
      · next hvalid =>
        obtain rfl := Except.ok.inj h
        refine ⟨rfl, ⟨⟨path, hpath, isCatalog_iff.mpr rfl⟩, hlevel,
          ⟨logFile, hlog, readFrom_iff.mpr rfl⟩, hverbose, hout, ?_⟩, validate_eq_ok.mp hvalid⟩
        rw [ht, Option.isSome_some]
  · rintro ⟨rfl, hmade, hvalid⟩
    obtain ⟨⟨path, hpath, hcatalog⟩, hlevel, ⟨logFile, hlog, hread⟩, hverbose, hout, hunused⟩ :=
      hmade
    obtain ⟨t, ht⟩ := Option.isSome_iff_exists.mp hunused
    simp only [hpath, hlevel, hlog, hverbose, hout, ht, Option.bind_eq_bind, Option.bind_some,
      Option.pure_def, isCatalog_iff.mp hcatalog, readFrom_iff.mp hread, validate_eq_ok.mpr hvalid]

theorem load_eq_ok {s : Settings} : (load fs env file flags).settings = .ok s ↔
    ∃ l, IsFileLayer fs file (inferRoot fs file) l ∧
      ofLayers fs flags (inferRoot fs file) (stack flags env l) = .ok s := by
  rw [load]
  cases hfile : file? fs file (inferRoot fs file) with
  | none =>
    constructor
    · exact fun h => ⟨[], .missing (isFile_iff.mpr hfile), h⟩
    · rintro ⟨l, hl, h⟩
      cases hl with
      | read found content => cases hfile.symm.trans (isFile_iff.mp found)
      | missing none_there => exact h
  | some path =>
    constructor
    · intro h
      simp only at h
      split at h
      · cases h
      · next l hl => exact ⟨l, .read (isFile_iff.mpr hfile) hl, h⟩
    · rintro ⟨l, hl, h⟩
      cases hl with
      | read found content =>
        cases hfile.symm.trans (isFile_iff.mp found)
        simp only [content]
        exact h
      | missing none_there => cases hfile.symm.trans (isFile_iff.mp none_there)

/-- A run has exactly the settings that its sources give by precedence. -/
theorem load_by_precedence (hflags : FromCommandLine flags) (henv : PlainNames env) (s : Settings) :
    (load fs env file flags).settings = .ok s ↔
      IsRoot fs file s.projectRoot ∧ ∃ l, IsFileLayer fs file s.projectRoot l ∧
        ∃ values : Item → Yaml.Value, (∀ k, Chosen flags env l k (values k)) ∧
          MadeOf fs flags values s ∧ s.Valid := by
  rw [load_eq_ok, isRoot_iff]
  constructor
  · rintro ⟨l, hl, h⟩
    obtain ⟨hroot, hmade, hvalid⟩ := ofLayers_eq_ok.mp h
    rw [hroot]
    refine ⟨rfl, l, hl, used flags env l, ?_, hmade, hvalid⟩
    exact fun k => (chosen_iff hflags.oneFlagEach henv l k _).mpr rfl
  · rintro ⟨hroot, l, hl, values, hchosen, hmade, hvalid⟩
    obtain rfl : used flags env l = values :=
      funext fun k => (chosen_iff hflags.oneFlagEach henv l k _).mp (hchosen k)
    rw [hroot]
    exact ⟨l, hl, ofLayers_eq_ok.mpr ⟨rfl, hmade, hvalid⟩⟩

private def heldFiles : Files where
  cwd := utf8 "/p/a"
  nodes := [([utf8 "p"], .directory), ([utf8 "p", utf8 "a"], .directory),
    ([utf8 "p", utf8 "nvgtls.yaml"],
      .file (utf8 "catalog_path: c.json\nlog_file: logs/x.log\nverbose: true\noutput: json\n"))]

private def heldVariables : List (Bytes × Bytes) :=
  [(utf8 "HOME", utf8 "/h"), (utf8 "NVGTLS_Log_Level", utf8 "debug")]

private def heldFlags : Option Parsed :=
  some ⟨[(utf8 "verbose", .bool false), (utf8 "catalog", .text [])], []⟩

private def heldSettings : Settings where
  catalogPath := []
  logLevel := utf8 "debug"
  logFile := utf8 "/p/logs/x.log"
  verbose := false
  output := utf8 "json"
  projectRoot := utf8 "/p"

/-- An empty and a false flag are taken before the file, which is found one directory up. -/
theorem load_by_precedence_held :
    FromCommandLine heldFlags ∧ PlainNames heldVariables ∧
      IsRoot heldFiles [] heldSettings.projectRoot ∧
      ∃ l, IsFileLayer heldFiles [] heldSettings.projectRoot l ∧
        ∃ values : Item → Yaml.Value, (∀ k, Chosen heldFlags heldVariables l k (values k)) ∧
          MadeOf heldFiles heldFlags values heldSettings ∧ heldSettings.Valid := by
  have hflags : FromCommandLine heldFlags := by
    rintro p ⟨⟩
    exact ⟨_, [utf8 "--catalog=", utf8 "--verbose=false"], .inl rfl, by decide +kernel⟩
  have henv : PlainNames heldVariables := ⟨by decide +kernel, by decide +kernel⟩
  have hload : (load heldFiles heldVariables [] heldFlags).settings = .ok heldSettings := by
    decide +kernel
  exact ⟨hflags, henv, (load_by_precedence hflags henv heldSettings).mp hload⟩

end Run

end Settings

end CallAssist
