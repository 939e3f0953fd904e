import CallAssist.Server.Basic
import Mathlib.Tactic.Common

/-! What one message can do to a server, said once for all that is proved along a run. -/

namespace CallAssist

namespace Server

/-- The methods that are told apart. -/
inductive Kind where
  | enter
  | confirm
  | shutdown
  | exit
  | didOpen
  | didClose
  | didChange
  | completion
  | signatureHelp
  | hover
  | other
  deriving DecidableEq, Repr

def Kind.names : List (Bytes × Kind) := [
  (utf8 "initialize", .enter), (utf8 "initialized", .confirm),
  (utf8 "shutdown", .shutdown), (utf8 "exit", .exit),
  (utf8 "textDocument/didOpen", .didOpen), (utf8 "textDocument/didClose", .didClose),
  (utf8 "textDocument/didChange", .didChange), (utf8 "textDocument/completion", .completion),
  (utf8 "textDocument/signatureHelp", .signatureHelp), (utf8 "textDocument/hover", .hover)]

def Message.kind (m : Message) : Kind := (Kind.names.lookup m.method).getD .other

def Message.isStop (m : Message) : Bool :=
  m.method == utf8 "shutdown" || m.method == utf8 "exit"

theorem kind_eq_iff {name : Bytes} {k : Kind} (h : (name, k) ∈ Kind.names) (m : Message) :
    m.kind = k ↔ m.method = name := by
  have names_found : ∀ e ∈ Kind.names, (Kind.names.lookup e.1).getD .other = e.2 := by decide +kernel
  have kinds_differ : ∀ e ∈ Kind.names, ∀ f ∈ Kind.names, e.2 = f.2 → e.1 = f.1 := by decide +kernel
  have none_other : ∀ e ∈ Kind.names, e.2 ≠ .other := by decide +kernel
  constructor
  · intro hk
    cases hl : Kind.names.lookup m.method with
    | none =>
      rw [Message.kind, hl] at hk
      exact absurd hk.symm (none_other _ h)
    | some k' =>
      rw [Message.kind, hl] at hk
      obtain rfl : k' = k := hk
      obtain ⟨l₁, l₂, hs, _⟩ := List.lookup_eq_some_iff.mp hl
      exact kinds_differ (m.method, k') (by rw [hs]; simp) (name, k') h rfl
  · rintro rfl
    exact names_found _ h

theorem Message.isStop_iff (m : Message) :
    m.isStop = true ↔ m.kind = .shutdown ∨ m.kind = .exit := by
  rw [kind_eq_iff (show (utf8 "shutdown", Kind.shutdown) ∈ Kind.names by simp [Kind.names]),
    kind_eq_iff (show (utf8 "exit", Kind.exit) ∈ Kind.names by simp [Kind.names]), isStop]
  simp

theorem dispatch_eq (fs : Files) (s : Server) (m : Message) : s.dispatch fs m =
    match m.kind with
    | .enter => match readInitialize m.params with
      | none => s.rejectRequest m
      | some p => s.openWorkspace fs m p
    | .confirm => s.confirmWorkspace
    | .shutdown => s.shutdown m
    | .exit => s.exit
    | .didOpen => match readOpen m.params with
      | none => s.rejectNotification m
      | some d => s.openDocument d
    | .didClose => match readClose m.params with
      | none => s.rejectNotification m
      | some uri => s.closeDocument uri
    | .didChange => match readChange m.params with
      | none => s.rejectNotification m
      | some p => s.changeDocument p
    | .completion => match readPlace m.params with
      | none => s.rejectRequest m
      | some _ => (s, s.log s.completions.2 ++ [answer m (completionResult s.completions.1)])
    | .signatureHelp => match readHelp m.params with
      | none => s.rejectRequest m
      | some p => (s, s.log (s.signatureHelp p).2 ++
          [answer m (((s.signatureHelp p).1.map helpResult).getD .null)])
    | .hover => match readPlace m.params with
      | none => s.rejectRequest m
      | some p => (s, [answer m (((s.hover p).map fun (f, r) => hoverResult f r).getD .null)])
    | .other =>
      if m.id.isSome then
        (s, [.message (.error m.id methodNotFound (utf8 "Method not found: " ++ m.method))])
      else (s, []) := by
  simp only [dispatch, Message.kind, Kind.names, List.lookup_cons]
  cases m.method == utf8 "initialize" with
  | true => rfl
  | false =>
  cases m.method == utf8 "initialized" with
  | true => rfl
  | false =>
  cases m.method == utf8 "shutdown" with
  | true => rfl
  | false =>
  cases m.method == utf8 "exit" with
  | true => rfl
  | false =>
  cases m.method == utf8 "textDocument/didOpen" with
  | true => rfl
  | false =>
  cases m.method == utf8 "textDocument/didClose" with
  | true => rfl
  | false =>
  cases m.method == utf8 "textDocument/didChange" with
  | true => rfl
  | false =>
  cases m.method == utf8 "textDocument/completion" with
  | true => rfl
  | false =>
  cases m.method == utf8 "textDocument/signatureHelp" with
  | true => rfl
  | false =>
  cases m.method == utf8 "textDocument/hover" with
  | true => rfl
  | false => rfl

theorem handle_fst (fs : Files) (s : Server) (m : Message) :
    (s.handle fs m).1 = (s.dispatch fs m).1 := rfl

theorem handle_snd (fs : Files) (s : Server) (m : Message) : (s.handle fs m).2 =
    s.log [.make .debug "Received" [("method", m.method)]] ++ (s.dispatch fs m).2 := rfl

/-- What a message may do to the state of a server. -/
inductive Moves (fs : Files) (s : Server) (m : Message) : Server → Prop where
  | stay (h : m.isStop = false) : Moves fs s m s
  | enter (h : m.kind = .enter) (root : Bytes) (level : Level) :
    Moves fs s m { s with projectRoot := root, level := level }
  | start (h : m.kind = .enter) (root : Bytes) (level : Level) (path : Bytes) (c : Catalog)
      (hc : Catalog.load fs path = .ok c) :
    Moves fs s m { s with projectRoot := root, level := level, session := some (.ofCatalog c) }
  | breakDown (h : m.kind = .enter) (root : Bytes) (level : Level) :
    Moves fs s m { s with projectRoot := root, level := level, broken := true }
  | confirm (h : m.kind = .confirm) : Moves fs s m { s with initialized := true }
  | stop (h : m.isStop = true) : Moves fs s m (closeSession { s with stopped := true }).1
  | openDocument (h : m.kind = .didOpen) (uri content : Bytes) (version : Int) :
    Moves fs s m { s with documents := s.documents.open uri content version }
  | closeDocument (h : m.kind = .didClose) (uri : Bytes) :
    Moves fs s m { s with documents := s.documents.close uri }
  | changeDocument (h : m.kind = .didChange) (uri content : Bytes) (version : Int) :
    Moves fs s m { s with documents := s.documents.update uri content version }

theorem applyLevel_fst (s : Server) (p : Option Settings.Project) :
    ∃ level, (s.applyLevel p).1 = { s with level := level } := by
  unfold applyLevel
  split
  · exact ⟨s.level, rfl⟩
  · exact ⟨s.level, rfl⟩
  · exact ⟨s.level, rfl⟩
  · split
    · exact ⟨_, rfl⟩
    · exact ⟨s.level, rfl⟩

def StartBreaks (fs : Files) (path : Bytes) : Prop := path ≠ [] ∧ Catalog.breaksDown fs path = true

/-- Starting a session breaks down, or leaves the server as it is, or gives it a session over a
catalogue that was loaded. -/
theorem startSession_fst (fs : Files) (s : Server) (m : Message) (path : Bytes) :
    (StartBreaks fs path ∧ (s.startSession fs m path).1 = { s with broken := true }) ∨
    (¬ StartBreaks fs path ∧ ((s.startSession fs m path).1 = s ∨
      ∃ c, Catalog.load fs path = .ok c ∧
        (s.startSession fs m path).1 = { s with session := some (.ofCatalog c) })) := by
  unfold startSession
  by_cases hp : path = []
  · subst hp
    exact .inr ⟨fun h => h.1 rfl, .inl rfl⟩
  · rw [if_neg (by simpa using hp)]
    cases hl : Catalog.load fs path with
    | ok c =>
      have hb : ¬ StartBreaks fs path := fun ⟨_, h⟩ => by simp [Catalog.breaksDown, hl] at h
      exact .inr ⟨hb, .inr ⟨c, rfl, by simp [Session.start, hl, bind, Except.bind]; rfl⟩⟩
    | error e =>
      have hs : Session.start fs path = .error e := by rw [Session.start, hl]; rfl
      rw [hs]
      by_cases he : e.isBreakdown = true
      · exact .inl ⟨⟨hp, by rw [Catalog.breaksDown, hl]; exact he⟩, by simp [he]⟩
      · have hb : ¬ StartBreaks fs path := fun h => by
          rw [StartBreaks, Catalog.breaksDown, hl] at h
          exact he h.2
        exact .inr ⟨hb, .inl (by simp [he, offerNothing])⟩

def BreaksDown (fs : Files) (s : Server) (p : InitializeParams) : Prop :=
  let s := { s with projectRoot := Uri.toPath p.rootUri }
  match s.projectSettings fs with
  | .error e => e.isBreakdown = true ∨ StartBreaks fs (s.chooseCatalog p.catalogPath none).1
  | .ok project => StartBreaks fs (s.chooseCatalog p.catalogPath project).1

private theorem enterWorkspace_fst (fs : Files) (s : Server) (m : Message) (wanted : Option Bytes)
    (project : Option Settings.Project) :
    (s.enterWorkspace fs m wanted project).1 =
      ((s.applyLevel project).1.startSession fs m (s.chooseCatalog wanted project).1).1 := by
  obtain ⟨level, hl⟩ := applyLevel_fst s project
  have hc : (s.applyLevel project).1.chooseCatalog wanted project = s.chooseCatalog wanted project := by
    rw [hl]
    rfl
  rw [← hc]
  rfl

/-- A workspace entered: what becomes of the server, and when it breaks down. -/
theorem enterWorkspace_moves (fs : Files) (s : Server) (m : Message) (h : m.kind = .enter)
    (root : Bytes) (wanted : Option Bytes) (project : Option Settings.Project) :
    let s' := (enterWorkspace fs { s with projectRoot := root } m wanted project).1
    Moves fs s m s' ∧ (s'.broken = true ↔ s.broken = true ∨
      StartBreaks fs (chooseCatalog { s with projectRoot := root } wanted project).1) := by
  intro s'
  obtain ⟨level, hl⟩ := applyLevel_fst { s with projectRoot := root } project
  have hs' : s' = (startSession fs { s with projectRoot := root, level := level } m
      (chooseCatalog { s with projectRoot := root } wanted project).1).1 := by
    rw [← hl]
    exact enterWorkspace_fst fs _ m wanted project
  rcases startSession_fst fs { s with projectRoot := root, level := level } m
      (chooseCatalog { s with projectRoot := root } wanted project).1 with
    ⟨hb, he⟩ | ⟨hb, he | ⟨c, hc, he⟩⟩
  · rw [hs', he]
    exact ⟨.breakDown h root level, by simp [hb]⟩
  · rw [hs', he]
    exact ⟨.enter h root level, by simp [hb]⟩
  · rw [hs', he]
    exact ⟨.start h root level _ c hc, by simp [hb]⟩

theorem openWorkspace_moves (fs : Files) (s : Server) (m : Message) (h : m.kind = .enter)
    (p : InitializeParams) :
    Moves fs s m (s.openWorkspace fs m p).1 ∧
      ((s.openWorkspace fs m p).1.broken = true ↔ s.broken = true ∨ BreaksDown fs s p) := by
  have he := enterWorkspace_moves fs s m h (Uri.toPath p.rootUri) p.catalogPath
  unfold openWorkspace BreaksDown
  simp only
  cases projectSettings fs { s with projectRoot := Uri.toPath p.rootUri } with
  | ok project => exact he project
  | error e =>
    by_cases hb : e.isBreakdown = true
    · simp only [hb, if_true]
      exact ⟨.breakDown h _ s.level, by simp⟩
    · simp only [hb, Bool.false_eq_true, if_false, false_or]
      exact he none

private theorem isStop_false {m : Message} (h : m.kind ≠ .shutdown ∧ m.kind ≠ .exit) :
    m.isStop = false := by
  rw [← Bool.not_eq_true, m.isStop_iff]
  tauto

@[simp] theorem closeSession_fst (s : Server) :
    s.closeSession.1 = { s with session := s.session.map fun x => x.shutdown.1 } := by
  unfold closeSession
  split
  next hs => rw [hs, Option.map_none, ← hs]
  next session hs => rw [hs]; rfl

/-- Every message makes one of the listed moves. -/
theorem handle_moves (fs : Files) (s : Server) (m : Message) : Moves fs s m (s.handle fs m).1 := by
  rw [handle_fst, dispatch_eq]
  cases hk : m.kind with
  | enter =>
    cases hp : readInitialize m.params with
    | none => exact .stay (isStop_false (by simp [hk]))
    | some p => exact (openWorkspace_moves fs s m hk p).1
  | confirm => exact .confirm hk
  | shutdown => exact .stop (m.isStop_iff.mpr (.inl hk))
  | exit => exact .stop (m.isStop_iff.mpr (.inr hk))
  | didOpen =>
    cases readOpen m.params with
    | none => exact .stay (isStop_false (by simp [hk]))
    | some d => exact .openDocument hk d.uri d.text d.version
  | didClose =>
    cases readClose m.params with
    | none => exact .stay (isStop_false (by simp [hk]))
    | some uri => exact .closeDocument hk uri
  | didChange =>
    cases readChange m.params with
    | none => exact .stay (isStop_false (by simp [hk]))
    | some p =>
      simp only [changeDocument]
      cases p.changes.toList.getLast? with
      | none => exact .stay (isStop_false (by simp [hk]))
      | some c => exact .changeDocument hk p.document.uri c.text p.document.version
  | completion =>
    cases readPlace m.params <;> exact .stay (isStop_false (by simp [hk]))
  | signatureHelp =>
    cases readHelp m.params <;> exact .stay (isStop_false (by simp [hk]))
  | hover =>
    cases readPlace m.params <;> exact .stay (isStop_false (by simp [hk]))
  | other =>
    simp only
    split <;> exact .stay (isStop_false (by simp [hk]))

/-- A server is stopped by `shutdown` and `exit` and by nothing else. -/
theorem handle_stopped (fs : Files) (s : Server) (m : Message) :
    (s.handle fs m).1.stopped = (s.stopped || m.isStop) := by
  have hi (k : Kind) (h : m.kind = k) (hs : k ≠ .shutdown) (he : k ≠ .exit) : m.isStop = false :=
    isStop_false (by simp [h, hs, he])
  have hm := handle_moves fs s m
  generalize (s.handle fs m).1 = s' at hm
  cases hm with
  | stay h => rw [h, Bool.or_false]
  | enter h => rw [hi _ h (by decide) (by decide), Bool.or_false]
  | start h => rw [hi _ h (by decide) (by decide), Bool.or_false]
  | breakDown h => rw [hi _ h (by decide) (by decide), Bool.or_false]
  | confirm h => rw [hi _ h (by decide) (by decide), Bool.or_false]
  | stop h => rw [h, Bool.or_true, closeSession_fst]
  | openDocument h => rw [hi _ h (by decide) (by decide), Bool.or_false]
  | closeDocument h => rw [hi _ h (by decide) (by decide), Bool.or_false]
  | changeDocument h => rw [hi _ h (by decide) (by decide), Bool.or_false]

/-- A server breaks down over the workspace that a message opens and over nothing else. -/
theorem handle_broken (fs : Files) (s : Server) (m : Message) :
    (s.handle fs m).1.broken = true ↔ s.broken = true ∨
      m.kind = .enter ∧ ∃ p, readInitialize m.params = some p ∧ BreaksDown fs s p := by
  by_cases hk : m.kind = .enter
  · rw [handle_fst, dispatch_eq, hk]
    cases hp : readInitialize m.params with
    | none => simp [rejectRequest]
    | some p => simpa using (openWorkspace_moves fs s m hk p).2
  · have hm := handle_moves fs s m
    generalize (s.handle fs m).1 = s' at hm
    cases hm with
    | enter h => exact absurd h hk
    | start h => exact absurd h hk
    | breakDown h => exact absurd h hk
    | stop h => simp [hk]
    | stay => simp [hk]
    | confirm => simp [hk]
    | openDocument => simp [hk]
    | closeDocument => simp [hk]
    | changeDocument => simp [hk]

end Server

end CallAssist
