import CallAssist.Proofs.Catalog.Triggers
import CallAssist.Proofs.Settings.Workspace

/-! What opening a workspace comes to: which catalogue is chosen, which log level is kept, what the
answer offers, and which files the server does not survive. -/

namespace CallAssist

namespace Settings

def Project.InFile (fs : Files) (dir : Bytes) (project : Project) : Prop :=
  ∃ path l, IsFile fs [] dir (some path) ∧ Layer.ofFile fs path = .ok l ∧
    l.text? "catalog_path" = some project.catalogPath ∧
    l.text? "log_level" = some project.logLevel

theorem Project.ofLayer?_eq_some {l : Layer} {project : Project} :
    Project.ofLayer? l = some project ↔ l.text? "catalog_path" = some project.catalogPath ∧
      l.text? "log_level" = some project.logLevel := by
  constructor
  · intro h
    obtain ⟨path, hpath, h⟩ := Option.bind_eq_some_iff.mp h
    obtain ⟨level, hlevel, h⟩ := Option.bind_eq_some_iff.mp h
    obtain rfl := Option.some.inj h
    exact ⟨hpath, hlevel⟩
  · rintro ⟨hpath, hlevel⟩
    simp [ofLayer?, hpath, hlevel]

theorem Project.load_eq_ok_some {fs : Files} {dir : Bytes} {project : Project} :
    Project.load fs dir = .ok (some project) ↔ project.InFile fs dir := by
  constructor
  · intro h
    obtain ⟨path, l, hpath, hl, hof⟩ := Project.exists_layer h
    exact ⟨path, l, isFile_iff.mpr hpath, hl, Project.ofLayer?_eq_some.mp hof⟩
  · rintro ⟨path, l, hpath, hl, hof⟩
    have hfile : fileIn? fs dir = some path := isFile_iff.mp hpath
    simp only [Project.load, hfile, hl, Project.ofLayer?_eq_some.mpr hof]

theorem Project.load_breakdown {fs : Files} {dir : Bytes} :
    (∃ e, Project.load fs dir = .error e ∧ e.isBreakdown = true) ↔
      ∃ path, IsFile fs [] dir (some path) ∧ Layer.ofFile fs path = .error .breakdown := by
  constructor
  · rintro ⟨e, h, he⟩
    unfold Project.load at h
    split at h
    · cases h
    next path hpath =>
      split at h
      next f hl =>
        obtain rfl := Except.error.inj h
        cases f with
        | breakdown => exact ⟨path, isFile_iff.mpr hpath, hl⟩
        | unreadable _ => cases he
        | undecodable => cases he
      next =>
        split at h
        · obtain rfl := Except.error.inj h
          cases he
        · cases h
  · rintro ⟨path, hpath, hl⟩
    have hfile : fileIn? fs dir = some path := isFile_iff.mp hpath
    refine ⟨.file path .breakdown, ?_, rfl⟩
    simp only [Project.load, hfile, hl]

theorem Project.level_eq_ok_some {project : Project} {l : Level} :
    project.level = .ok (some l) ↔
      project.logLevel ≠ [] ∧ Level.parse project.logLevel = .ok l := by
  rw [Project.level]
  by_cases h : project.logLevel = []
  · simp [h]
  · rw [if_neg (by simpa using h)]
    cases Level.parse project.logLevel with
    | error e => simp [Except.map]
    | ok l' => simp [Except.map, h]

end Settings

namespace Server

open Settings

variable {fs : Files} {s : Server} {p : InitializeParams}

section Choice

/-- A path that is read from the root of a workspace, where there is one. -/
inductive FromRoot (root : Bytes) : Bytes → Bytes → Prop
  | absolute {path : Bytes} (rooted : Path.isAbsolute path = true) : FromRoot root path path
  | rootless {path : Bytes} (no_root : root = []) : FromRoot root path path
  | relative {path : Bytes} (not_rooted : Path.isAbsolute path = false) (some_root : root ≠ []) :
      FromRoot root path (Path.join [root, path])

def WorkspaceSets (fs : Files) (p : InitializeParams) (project : Project) : Prop :=
  Uri.toPath p.rootUri ≠ [] ∧ project.InFile fs (Uri.toPath p.rootUri)

/-- The path of the catalogue: the one that the editor asks for, else the one that the workspace
sets, both read from its root, else the one that the server was started with. -/
inductive ChoosesCatalog (fs : Files) (s : Server) (p : InitializeParams) : Bytes → Prop
  | asked {path q : Bytes} (asked : p.catalogPath = some path) (some_path : path ≠ [])
      (read : FromRoot (Uri.toPath p.rootUri) path q) : ChoosesCatalog fs s p q
  | pinned {project : Project} {q : Bytes} (not_asked : ∀ path ∈ p.catalogPath, path = [])
      (sets : WorkspaceSets fs p project) (some_path : project.catalogPath ≠ [])
      (read : FromRoot (Uri.toPath p.rootUri) project.catalogPath q) : ChoosesCatalog fs s p q
  | own (not_asked : ∀ path ∈ p.catalogPath, path = [])
      (not_pinned : ∀ project, WorkspaceSets fs p project → project.catalogPath = []) :
      ChoosesCatalog fs s p s.catalogPath

theorem fromRoot_iff {path q : Bytes} : FromRoot s.projectRoot path q ↔ s.fromRoot path = q := by
  rw [fromRoot]
  constructor
  · intro h
    cases h with
    | absolute rooted => rw [if_pos (by simp [rooted])]
    | rootless no_root => rw [if_pos (by simp [no_root])]
    | relative not_rooted some_root => rw [if_neg (by simp [not_rooted, some_root])]
  · rintro rfl
    split_ifs with h
    · rcases Bool.or_eq_true_iff.mp h with h | h
      · exact .absolute h
      · exact .rootless (List.isEmpty_iff.mp h)
    · rw [Bool.or_eq_true, not_or] at h
      exact .relative (by simpa using h.1) (by simpa using h.2)

def settingsFor (fs : Files) (s : Server) (p : InitializeParams) : Option Project :=
  (projectSettings fs { s with projectRoot := Uri.toPath p.rootUri }).toOption.join

theorem settingsFor_eq_some {project : Project} :
    s.settingsFor fs p = some project ↔ WorkspaceSets fs p project := by
  rw [settingsFor, projectSettings, WorkspaceSets, ← Project.load_eq_ok_some]
  by_cases hroot : Uri.toPath p.rootUri = []
  · simp [hroot, Except.toOption]
  · simp only [hroot, List.isEmpty_iff, if_false, ne_eq, not_false_eq_true, true_and]
    cases Project.load fs (Uri.toPath p.rootUri) with
    | error e => simp [Except.toOption]
    | ok found => simp [Except.toOption]

theorem choosesCatalog_iff {q : Bytes} : ChoosesCatalog fs s p q ↔ s.catalogPathFor fs p = q := by
  have hread {path q : Bytes} : FromRoot (Uri.toPath p.rootUri) path q ↔
      fromRoot { s with projectRoot := Uri.toPath p.rootUri } path = q :=
    fromRoot_iff (s := { s with projectRoot := Uri.toPath p.rootUri })
  have hasked : p.catalogPath.getD [] = [] ↔ ∀ path ∈ p.catalogPath, path = [] := by
    cases p.catalogPath with
    | none => simp
    | some path => simp
  have hchosen : s.catalogPathFor fs p =
      (chooseCatalog { s with projectRoot := Uri.toPath p.rootUri } p.catalogPath
        (s.settingsFor fs p)).1 := rfl
  rw [hchosen]
  simp only [chooseCatalog]
  constructor
  · intro h
    cases h with
    | asked asked some_path read => simp [asked, some_path, hread.mp read]
    | pinned not_asked sets some_path read =>
      simp [hasked.mpr not_asked, settingsFor_eq_some.mpr sets, some_path, hread.mp read]
    | own not_asked not_pinned =>
      have hnone : ((s.settingsFor fs p).map Project.catalogPath).getD [] = [] := by
        cases hfound : s.settingsFor fs p with
        | none => rfl
        | some project => exact not_pinned project (settingsFor_eq_some.mp hfound)
      simp [hasked.mpr not_asked, hnone]
  · rintro rfl
    split_ifs with hwanted hpinned
    · cases hp : p.catalogPath with
      | none => simp [hp] at hwanted
      | some path => exact .asked hp (by simpa [hp] using hwanted) (hread.mpr rfl)
    · have hnot := hasked.mp (by simpa using hwanted)
      cases hfound : s.settingsFor fs p with
      | none => simp [hfound] at hpinned
      | some project =>
        refine .pinned hnot (settingsFor_eq_some.mp hfound) ?_ (hread.mpr rfl)
        simpa [hfound] using hpinned
    · refine .own (hasked.mp (by simpa using hwanted)) fun project sets => ?_
      simpa [settingsFor_eq_some.mpr sets] using hpinned

end Choice

section Level

/-- The log level that a workspace sets on a server that takes one from it. -/
def SetsLevel (fs : Files) (s : Server) (p : InitializeParams) (l : Level) : Prop :=
  s.adjustable = true ∧ ∃ project, WorkspaceSets fs p project ∧ project.logLevel ≠ [] ∧
    Level.parse project.logLevel = .ok l

private theorem applyLevel_level (s : Server) (found : Option Project) :
    (s.applyLevel found).1.level =
      if s.adjustable then (found.bind fun x => x.level.toOption.join).getD s.level
      else s.level := by
  unfold applyLevel
  cases found with
  | none => simp
  | some project =>
    simp only [Option.map_some, Option.bind_some]
    cases project.level with
    | error e => simp [Except.toOption]
    | ok set =>
      cases set with
      | none => simp [Except.toOption]
      | some l =>
        cases s.adjustable with
        | true => simp [Except.toOption]
        | false => simp

private theorem startSession_level (s : Server) (m : Message) (path : Bytes) :
    (s.startSession fs m path).1.level = s.level := by
  rcases startSession_fst fs s m path with ⟨_, h⟩ | ⟨_, h | ⟨c, _, h⟩⟩
  · rw [h]
  · rw [h]
  · rw [h]

private theorem openWorkspace_level (m : Message) : (s.openWorkspace fs m p).1.level =
    (applyLevel { s with projectRoot := Uri.toPath p.rootUri } (s.settingsFor fs p)).1.level := by
  have henter (s : Server) (found : Option Project) :
      (s.enterWorkspace fs m p.catalogPath found).1.level = (s.applyLevel found).1.level :=
    startSession_level _ m _
  simp only [openWorkspace, settingsFor]
  cases projectSettings fs { s with projectRoot := Uri.toPath p.rootUri } with
  | ok found => exact henter _ found
  | error e =>
    simp only [Except.toOption, Option.join_none]
    split
    · rfl
    · exact henter _ none

/-- The level of a server changes to what the workspace sets, if that is a level, and not
otherwise. -/
theorem openWorkspace_setsLevel (fs : Files) (s : Server) (m : Message) (p : InitializeParams) :
    (∀ l, SetsLevel fs s p l → (s.openWorkspace fs m p).1.level = l) ∧
      ((∀ l, ¬ SetsLevel fs s p l) → (s.openWorkspace fs m p).1.level = s.level) := by
  rw [openWorkspace_level, applyLevel_level]
  constructor
  · rintro l ⟨hadjustable, project, sets, hset, hparse⟩
    have hlevel := Project.level_eq_ok_some.mpr ⟨hset, hparse⟩
    simp [hadjustable, settingsFor_eq_some.mpr sets, hlevel, Except.toOption]
  · intro hnone
    cases hadjustable : s.adjustable with
    | false => rfl
    | true =>
      cases hfound : s.settingsFor fs p with
      | none => rfl
      | some project =>
        have sets := settingsFor_eq_some.mp hfound
        simp only [if_true, Option.bind_some]
        cases hlevel : project.level with
        | error e => rfl
        | ok set =>
          cases set with
          | none => rfl
          | some l =>
            have hset := Project.level_eq_ok_some.mp hlevel
            exact absurd ⟨hadjustable, project, sets, hset⟩ (hnone l)

end Level

section Breakdown

/-- Files that a server does not survive opening a workspace with: reading the settings, or the
catalogue that is chosen, breaks down. -/
inductive Overwhelms (fs : Files) (s : Server) (p : InitializeParams) : Prop
  | settings {path : Bytes} (some_root : Uri.toPath p.rootUri ≠ [])
      (found : IsFile fs [] (Uri.toPath p.rootUri) (some path))
      (breaks : Layer.ofFile fs path = .error .breakdown) : Overwhelms fs s p
  | catalog {path q : Bytes} (chosen : ChoosesCatalog fs s p path)
      (breaks : Catalog.load fs path = .error (.invalid q .breakdown)) : Overwhelms fs s p

private theorem isBreakdown_iff {e : LoadError} :
    e.isBreakdown = true ↔ ∃ q, e = .invalid q .breakdown := by
  constructor
  · intro h
    unfold LoadError.isBreakdown at h
    split at h
    · exact ⟨_, rfl⟩
    · cases h
  · rintro ⟨q, rfl⟩
    rfl

private theorem startBreaks_iff {path : Bytes} :
    StartBreaks fs path ↔ ∃ q, Catalog.load fs path = .error (.invalid q .breakdown) := by
  rw [StartBreaks, Catalog.breaksDown]
  constructor
  · rintro ⟨_, h⟩
    cases hl : Catalog.load fs path with
    | ok c =>
      rw [hl] at h
      cases h
    | error e =>
      rw [hl] at h
      obtain ⟨q, rfl⟩ := isBreakdown_iff.mp h
      exact ⟨q, rfl⟩
  · rintro ⟨q, hl⟩
    refine ⟨?_, by rw [hl]; rfl⟩
    rintro rfl
    cases hl

private theorem projectSettings_breakdown :
    (∃ e, projectSettings fs { s with projectRoot := Uri.toPath p.rootUri } = .error e ∧
        e.isBreakdown = true) ↔
      Uri.toPath p.rootUri ≠ [] ∧ ∃ path, IsFile fs [] (Uri.toPath p.rootUri) (some path) ∧
        Layer.ofFile fs path = .error .breakdown := by
  rw [← Project.load_breakdown, projectSettings]
  by_cases hroot : Uri.toPath p.rootUri = []
  · simp [hroot]
  · simp [hroot]

theorem breaksDown_iff : BreaksDown fs s p ↔ Overwhelms fs s p := by
  have hchosen : BreaksDown fs s p ↔
      (∃ e, projectSettings fs { s with projectRoot := Uri.toPath p.rootUri } = .error e ∧
        e.isBreakdown = true) ∨ StartBreaks fs (s.catalogPathFor fs p) := by
    simp only [BreaksDown, catalogPathFor]
    cases projectSettings fs { s with projectRoot := Uri.toPath p.rootUri } with
    | ok found => simp [Except.toOption]
    | error e => simp [Except.toOption]
  rw [hchosen, projectSettings_breakdown, startBreaks_iff]
  constructor
  · rintro (⟨some_root, path, found, breaks⟩ | ⟨q, breaks⟩)
    · exact .settings some_root found breaks
    · exact .catalog (choosesCatalog_iff.mpr rfl) breaks
  · intro h
    cases h with
    | settings some_root found breaks => exact .inl ⟨some_root, _, found, breaks⟩
    | catalog chosen breaks =>
      rw [choosesCatalog_iff.mp chosen]
      exact .inr ⟨_, breaks⟩

/-- Settings and a catalogue that can be read overwhelm no server. -/
theorem not_overwhelms {project : Project} {path : Bytes} {c : Catalog}
    (sets : WorkspaceSets fs p project) (chosen : ChoosesCatalog fs s p path)
    (hc : Catalog.load fs path = .ok c) : ¬ Overwhelms fs s p := by
  intro h
  cases h with
  | settings some_root found breaks =>
    obtain ⟨_, path, l, hpath, hl, _⟩ := sets
    obtain rfl := Option.some.inj ((isFile_iff.mp found).symm.trans (isFile_iff.mp hpath))
    rw [hl] at breaks
    cases breaks
  | catalog chosen' breaks =>
    rw [← choosesCatalog_iff.mp chosen', choosesCatalog_iff.mp chosen, hc] at breaks
    cases breaks

theorem openWorkspace_broken {m : Message} (hk : m.kind = .enter) :
    (s.openWorkspace fs m p).1.broken = true ↔ s.broken = true ∨ Overwhelms fs s p := by
  rw [← breaksDown_iff]
  exact (openWorkspace_moves fs s m hk p).2

end Breakdown

section Answer

def capability? (v : Json) (name : String) : Option Json :=
  (v.fields.lookup (utf8 "capabilities")).bind fun w => w.fields.lookup (utf8 name)

/-- The answer offers a feature: it has the capability, and not to deny it. -/
def Offers (v : Json) (name : String) : Prop := ∃ w, capability? v name = some w ∧ w ≠ .bool false

def offeredTriggers (v : Json) : List Json :=
  (((capability? v "completionProvider").bind fun w =>
    w.fields.lookup (utf8 "triggerCharacters")).map Json.items).getD []

def features : List String := ["completionProvider", "signatureHelpProvider", "hoverProvider"]

theorem offers_iff (version : Bytes) (c : Option Catalog) {name : String} (h : name ∈ features) :
    Offers (initializeResult version c) name ↔ c.isSome = true := by
  simp only [features, List.mem_cons, List.not_mem_nil, or_false] at h
  cases c with
  | none =>
    have hnone : capability? (initializeResult version none) name = none := by
      rcases h with rfl | rfl | rfl <;> rfl
    simp [Offers, hnone]
  | some c =>
    refine iff_of_true ?_ rfl
    rcases h with rfl | rfl | rfl
    · exact ⟨_, rfl, by simp⟩
    · exact ⟨_, rfl, by simp⟩
    · exact ⟨_, rfl, by simp⟩

theorem offeredTriggers_eq (version : Bytes) (c : Catalog) :
    offeredTriggers (initializeResult version (some c)) = c.triggers.map .ofText := by
  have hoffered : capability? (initializeResult version (some c)) "completionProvider" =
      some (.object (if c.triggers.isEmpty then []
        else [Json.field "triggerCharacters" (.array (c.triggers.map .ofText))])) := rfl
  rw [offeredTriggers, hoffered, Option.bind_some]
  by_cases h : c.triggers = []
  · simp [h, Json.fields]
  · rw [if_neg (by simpa using h)]
    rfl

theorem catalogFor?_isSome : (s.catalogFor? fs p).isSome = true ↔
    s.catalogPathFor fs p ≠ [] ∧ ∃ c, Catalog.load fs (s.catalogPathFor fs p) = .ok c := by
  rw [catalogFor?]
  cases hl : Catalog.load fs (s.catalogPathFor fs p) with
  | error e => simp [Except.toOption]
  | ok c =>
    refine iff_of_true rfl ⟨?_, c, rfl⟩
    intro hnil
    rw [hnil] at hl
    cases hl

end Answer

/-- Opening a workspace. The path of the catalogue is the one that is asked for, else the one that
the workspace sets, else the server's own; the log level changes exactly to what the workspace sets.
A server that survives it answers once: it offers all the features if the catalogue at that path can
be loaded and none of them otherwise. With a catalogue the characters that bring up suggestions are
the first ones of its names, and the session is an open one over it. The only files that a server
does not survive, and then does not answer, are those that break down the reading of its settings or
of the catalogue. -/
theorem initialize_exact (fs : Files) (s : Server) {m : Message} {p : InitializeParams}
    (hm : m.method = utf8 "initialize") (hp : readInitialize m.params = some p) :
    let s' := (s.handle fs m).1
    let answers := sent (s.handle fs m).2
    ∃ path, (∀ q, ChoosesCatalog fs s p q ↔ q = path) ∧
      (∀ l, SetsLevel fs s p l → s'.level = l) ∧
      ((∀ l, ¬ SetsLevel fs s p l) → s'.level = s.level) ∧
      (Overwhelms fs s p → s'.broken = true ∧ answers = []) ∧
      (¬ Overwhelms fs s p → ∃ v, answers = [.result m.id v] ∧
        (∀ name ∈ features, Offers v name ↔ path ≠ [] ∧ ∃ c, Catalog.load fs path = .ok c) ∧
        ∀ c, Catalog.load fs path = .ok c →
          s'.session = some ⟨c, false⟩ ∧
          ∃ ts, offeredTriggers v = ts.map .ofText ∧
            ts.Nodup ∧ FirstOccurrences c.initials ts ∧
            ∀ f ∈ c.functions, ∃! t, t ∈ ts ∧ t <+: f.name) := by
  intro s' answers
  have hk : m.kind = .enter := (kind_eq_iff (by simp [Kind.names]) m).mpr hm
  have hs' : s' = (s.openWorkspace fs m p).1 := by
    simp only [s', handle_fst, dispatch_eq, hk, hp]
  have hanswers : answers = sent (s.openWorkspace fs m p).2 := by
    simp only [answers, handle_snd, sent_append, sent_log, dispatch_eq, hk, hp, List.nil_append]
  obtain ⟨hset, hkept⟩ := openWorkspace_setsLevel fs s m p
  refine ⟨s.catalogPathFor fs p, ?_, ?_, ?_, ?_, ?_⟩
  · intro q
    rw [choosesCatalog_iff, eq_comm]
  · rw [hs']
    exact hset
  · rw [hs']
    exact hkept
  · intro hbreaks
    have hdown := breaksDown_iff.mpr hbreaks
    rw [hs', hanswers]
    refine ⟨(openWorkspace_broken hk).mpr (.inr hbreaks), ?_⟩
    rcases openWorkspace_spec fs s m p with ⟨_, hsilent⟩ | ⟨hnot, _⟩
    · exact hsilent
    · exact absurd hdown hnot
  · intro hcopes
    rcases openWorkspace_spec fs s m p with ⟨hdown, _⟩ | ⟨_, hsent, hsession⟩
    · exact absurd (breaksDown_iff.mp hdown) hcopes
    refine ⟨initializeResult s.version (s.catalogFor? fs p), hanswers.trans hsent, ?_, ?_⟩
    · intro name hname
      rw [offers_iff s.version _ hname]
      exact catalogFor?_isSome
    · intro c hc
      have hfor : s.catalogFor? fs p = some c := by rw [catalogFor?, hc]; rfl
      have hfirst := c.triggers_firstOccurrences
      refine ⟨?_, c.triggers, ?_, hfirst.nodup, hfirst, ?_⟩
      · rw [hs', hsession, hfor]
        rfl
      · rw [hfor, offeredTriggers_eq]
      · intro f hf
        exact (Catalog.load_indexed hc).existsUnique_trigger hf

section Pinned

def pinnedFiles : Files where
  cwd := utf8 "/"
  nodes := [([utf8 "w"], .directory),
    ([utf8 "w", utf8 "nvgtls.yaml"], .file (utf8 "catalog_path: c.json\nlog_level: debug\n")),
    ([utf8 "w", utf8 "c.json"], .file (utf8 (
      "[\x7b\"name\":\"beep\",\"params\":[],\"description\":\"\"\x7d," ++
      "\x7b\"name\":\"wait\",\"params\":[\"int ms\"],\"description\":\"\"\x7d," ++
      "\x7b\"name\":\"bell\",\"params\":[],\"description\":\"\"\x7d]")))]

def pinnedMessage : Message where
  version := utf8 "2.0"
  id := some (.ofNat 1)
  method := utf8 "initialize"
  params := some (.object [Json.field "rootUri" (.ofText (utf8 "file:///w"))])
  result := none
  error := none

def pinnedParams : InitializeParams := ⟨0, utf8 "file:///w", none⟩

def pinnedServer : Server := fresh (utf8 "/d.json") [] .info true

private theorem readInitialize_pinned :
    readInitialize pinnedMessage.params = some pinnedParams := by
  have hread : (readInitialize pinnedMessage.params).map
      (fun p => (p.processId, p.rootUri, p.catalogPath)) = some (0, utf8 "file:///w", none) := by
    decide +kernel
  obtain ⟨⟨id, root, path⟩, hp, hsame⟩ := Option.map_eq_some_iff.mp hread
  obtain ⟨rfl, rfl, rfl⟩ : id = 0 ∧ root = utf8 "file:///w" ∧ path = none := by
    simpa only [Prod.mk.injEq] using hsame
  exact hp

private theorem workspaceSets_pinned :
    WorkspaceSets pinnedFiles pinnedParams ⟨utf8 "c.json", utf8 "debug"⟩ := by
  apply (settingsFor_eq_some (s := pinnedServer)).mp
  decide +kernel

private theorem choosesCatalog_pinned :
    ChoosesCatalog pinnedFiles pinnedServer pinnedParams (utf8 "/w/c.json") := by
  have hread : Path.join [Uri.toPath pinnedParams.rootUri, utf8 "c.json"] = utf8 "/w/c.json" := by
    decide +kernel
  refine .pinned (fun path h => by cases h) workspaceSets_pinned (by decide +kernel) ?_
  rw [← hread]
  exact .relative (by decide +kernel) (by decide +kernel)

private theorem loads_pinned : ∃ c, Catalog.load pinnedFiles (utf8 "/w/c.json") = .ok c ∧
    c.initials = [utf8 "b", utf8 "w", utf8 "b"] := by
  have hload : (Catalog.load pinnedFiles (utf8 "/w/c.json")).toOption.map Catalog.initials =
      some [utf8 "b", utf8 "w", utf8 "b"] := by
    decide +kernel
  generalize Catalog.load pinnedFiles (utf8 "/w/c.json") = loaded at hload
  cases loaded with
  | error e => cases hload
  | ok c => exact ⟨c, rfl, Option.some.inj hload⟩

/-- The settings in the workspace win over what the server was started with. -/
theorem initialize_exact_pinned :
    readInitialize pinnedMessage.params = some pinnedParams ∧
      ChoosesCatalog pinnedFiles pinnedServer pinnedParams (utf8 "/w/c.json") ∧
      SetsLevel pinnedFiles pinnedServer pinnedParams .debug ∧
      ¬ Overwhelms pinnedFiles pinnedServer pinnedParams ∧
      (pinnedServer.handle pinnedFiles pinnedMessage).1.level = .debug ∧
      ∃ c v ts, (pinnedServer.handle pinnedFiles pinnedMessage).1.session = some ⟨c, false⟩ ∧
        sent (pinnedServer.handle pinnedFiles pinnedMessage).2 = [.result pinnedMessage.id v] ∧
        (∀ name ∈ features, Offers v name) ∧ offeredTriggers v = ts.map .ofText ∧
        FirstOccurrences [utf8 "b", utf8 "w", utf8 "b"] ts := by
  have hsets : SetsLevel pinnedFiles pinnedServer pinnedParams .debug :=
    ⟨rfl, _, workspaceSets_pinned, by decide +kernel, by decide +kernel⟩
  have hm : pinnedMessage.method = utf8 "initialize" := rfl
  obtain ⟨path, hpath, hlevel, _, _, hanswer⟩ :=
    initialize_exact pinnedFiles pinnedServer hm readInitialize_pinned
  obtain rfl := (hpath _).mp choosesCatalog_pinned
  obtain ⟨c, hc, hinitials⟩ := loads_pinned
  have hcopes := not_overwhelms workspaceSets_pinned choosesCatalog_pinned hc
  obtain ⟨v, hsent, hoffers, hloaded⟩ := hanswer hcopes
  obtain ⟨hsession, ts, hts, _, hfirst, _⟩ := hloaded c hc
  rw [hinitials] at hfirst
  refine ⟨readInitialize_pinned, choosesCatalog_pinned, hsets, hcopes, hlevel _ hsets, c, v, ts,
    hsession, hsent, ?_, hts, hfirst⟩
  intro name hname
  exact (hoffers name hname).mpr ⟨by decide +kernel, c, hc⟩

end Pinned

/-- A catalogue that should be refused, with a list for a key and a merge behind it: nothing is
answered. -/
theorem run_overwhelmed :
    let fs : Files := ⟨[], [([utf8 "c.yaml"], .file
      (utf8 "- \x7bname: f, params: [], description: d, [a]: x, <<: \x7b\x7d\x7d\n"))]⟩
    let r := run fs (fresh (utf8 "/c.yaml") [] .info true)
      (frame (utf8 "\x7b\"id\":1,\"method\":\"initialize\",\"params\":\x7b\x7d\x7d"))
    r.stop = .crashed ∧ r.written = [] := by
  decide +kernel

end Server

end CallAssist
