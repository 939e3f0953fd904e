import CallAssist.Command.Run
import CallAssist.Proofs.Files

/-!
What a run leaves of the files it found. Two files may be written to, the log file and the file for
what goes wrong with completions; all others are kept as they are. A program that is given its
settings writes no log file at all.
-/

namespace CallAssist.Program

open Files (Grows)

variable {p : Program} {h : Host} {t : Trace} {written : List Bytes → Prop}

theorem openLog_grows {fs fs' : Files} {s : Settings} (hopen : openLog fs s = .ok fs') :
    fs.Grows written fs' := by
  unfold openLog at hopen
  split at hopen
  · obtain rfl := Except.ok.inj hopen
    exact .refl written fs
  · split at hopen
    · cases hopen
    · rename_i made hmade
      split at hopen
      · cases hopen
      · rename_i opened hopened
        obtain rfl := Except.ok.inj hopen
        exact (Files.makeDirectories_grows hmade).trans (Files.openAppend_grows hopened)

theorem setUp_grows {flags : Command.Parsed} {s : Setup} (hs : p.setUp h flags = .ok s) :
    h.files.Grows written s.files := by
  unfold setUp at hs
  split at hs
  · obtain rfl := Except.ok.inj hs
    exact .refl written h.files
  · dsimp only at hs
    split at hs
    · cases hs
    · split at hs
      · cases hs
      · rename_i hopen
        obtain rfl := Except.ok.inj hs
        exact openLog_grows hopen

theorem setUp_files {flags : Command.Parsed} {s : Setup} (hp : p.settings.isSome = true)
    (hs : p.setUp h flags = .ok s) : s.files = h.files := by
  obtain ⟨given, hgiven⟩ := Option.isSome_iff_exists.mp hp
  rw [setUp, hgiven] at hs
  obtain rfl := Except.ok.inj hs
  rfl

theorem debugged_nil (h : Host) : debugged h [] = h.files := by
  cases hfile : debugFile? h <;> simp [debugged, hfile]

theorem debugged_grows (text : Bytes)
    (hdebug : ∀ path q, debugFile? h = some path → h.files.place path = .ok q → written q) :
    h.files.Grows written (debugged h text) := by
  unfold debugged
  split
  · exact .refl written h.files
  · rename_i path hpath
    split
    · exact .refl written h.files
    · split
      · exact .refl written h.files
      · rename_i opened hopened
        obtain ⟨q, hq⟩ := Files.exists_place_of_openAppend hopened
        have hgrows : h.files.Grows written opened := Files.openAppend_grows hopened
        refine hgrows.trans (Files.append_grows text fun q' hq' => ?_)
        obtain rfl := Except.ok.inj ((hgrows.place hq).symm.trans hq')
        exact hdebug path q hpath hq

/-- What a start leaves: the debug file with what it had to say there, or the files of a command
that has its settings. -/
inductive Leaves (p : Program) (h : Host) : Trace → Prop
  | told (reports : List Report) (text : Bytes) : Leaves p h ⟨reports, none, debugged h text, text⟩
  | ready {flags : Command.Parsed} {s : Setup} (hs : p.setUp h flags = .ok s)
    (reports : List Report) {logFile : Option Bytes}
    (hlog : p.settings.isSome = true → logFile = none) :
    Leaves p h ⟨reports, logFile, s.files, []⟩

theorem plainStart_leaves (p : Program) (h : Host) (a : Action) :
    Leaves p h (plainStart h a).trace := by
  rw [plainStart, ← debugged_nil h]
  exact .told _ []

theorem startCommand_leaves (p : Program) (h : Host) (c : Command) (flags : Command.Parsed) :
    Leaves p h (p.startCommand h c flags).trace := by
  unfold startCommand
  split
  · exact plainStart_leaves p h _
  · split
    · exact plainStart_leaves p h _
    · exact plainStart_leaves p h _
    · exact plainStart_leaves p h _
    · split
      · exact plainStart_leaves p h _
      · rename_i hs
        exact .ready hs _ fun hp => by simp [hp]

theorem start_leaves (p : Program) (h : Host) (args : List Bytes) :
    Leaves (p.onArguments args) h (p.start h args).trace := by
  unfold start
  dsimp only
  split
  · exact plainStart_leaves _ h _
  · split
    · split
      · exact plainStart_leaves _ h _
      · exact .told _ _
    · split
      · exact plainStart_leaves _ h _
      · split
        · exact plainStart_leaves _ h _
        · split
          · exact plainStart_leaves _ h _
          · split
            · exact plainStart_leaves _ h _
            · exact startCommand_leaves _ h _ _

theorem onArguments_settings (p : Program) (args : List Bytes) :
    (p.onArguments args).settings = p.settings := by
  unfold onArguments
  split
  · dsimp only
    split
    · split <;> rfl
    · rfl
  · rfl

/-- The places of the files that a run may add to. -/
def Writes (h : Host) (t : Trace) (q : List Bytes) : Prop :=
  (∃ path, t.logFile = some path ∧ t.files.place path = .ok q) ∨
    ∃ path, debugFile? h = some path ∧ h.files.place path = .ok q

theorem Leaves.grows (ht : Leaves p h t) (stamp : Bytes) :
    h.files.Grows (Writes h t) (t.filesAfter stamp) := by
  cases ht with
  | told reports text => exact debugged_grows text fun path q hpath hq => .inr ⟨path, hpath, hq⟩
  | @ready flags s hs reports logFile hlog =>
    cases logFile with
    | none => exact setUp_grows hs
    | some path =>
      exact (setUp_grows hs).trans (Files.append_grows _ fun q hq => .inl ⟨path, rfl, hq⟩)

theorem Leaves.withReports (ht : Leaves p h t) (reports : List Report) :
    Leaves p h { t with reports := reports } := by
  cases ht with
  | told _ text => exact .told reports text
  | ready hs _ hlog => exact .ready hs reports hlog

theorem run_leaves (p : Program) (h : Host) (args : List Bytes) (input : Bytes) :
    Leaves (p.onArguments args) h (p.run h args input).trace := by
  have hstart := start_leaves p h args
  unfold run
  dsimp only
  split
  · exact hstart
  · exact hstart
  · exact hstart
  · exact hstart.withReports _
  · exact hstart.withReports _

theorem main_leaves (p : Program) (h : Host) (args : List Bytes) (input : Bytes) :
    Leaves (p.onArguments args) h (p.main h args input).trace := by
  have hrun := run_leaves p h args input
  unfold main
  dsimp only
  split
  · exact hrun.withReports _
  · exact hrun

/-- Whatever a program is asked for, a file that could be read keeps its content, and more comes
behind it only in the log file and in the debug file. -/
theorem main_keeps_files {path content : Bytes} (args : List Bytes) (input stamp : Bytes)
    (hread : h.files.read path = .ok content) :
    let t := (p.main h args input).trace
    ∃ q more, h.files.place path = .ok q ∧
      (t.filesAfter stamp).read path = .ok (content ++ more) ∧ (¬ Writes h t q → more = []) :=
  ((main_leaves p h args input).grows stamp).read hread

/-- A program that is given its settings adds to no file but the debug file. -/
theorem Leaves.filesAfter_of_settings (ht : Leaves p h t) (hp : p.settings.isSome = true)
    (stamp : Bytes) : t.filesAfter stamp = debugged h t.diagnostics := by
  cases ht with
  | told reports text => rfl
  | ready hs reports hlog =>
    obtain rfl := hlog hp
    rw [debugged_nil h]
    exact setUp_files hp hs

theorem single_filesAfter (c : Command) (version : Bytes) (s : Settings) (h : Host)
    (args : List Bytes) (input stamp : Bytes) :
    let t := ((single c version s).main h args input).trace
    t.filesAfter stamp = debugged h t.diagnostics := by
  have hp : ((single c version s).onArguments args).settings.isSome = true := by
    rw [onArguments_settings]
    rfl
  exact (main_leaves (single c version s) h args input).filesAfter_of_settings hp stamp

end CallAssist.Program
