import CallAssist.Proofs.Server.Dispatch
import CallAssist.Proofs.Server.Stream

/-! The messages that a server takes up in a run, each with the server it finds. What a run sends is
what is sent for them, one after the other. -/

namespace CallAssist

namespace Server

/-- A message and the server it finds. -/
structure Visit where
  server : Server
  message : Message

def Visit.step (fs : Files) (v : Visit) : Step := v.server.handle fs v.message

def Visit.completed (fs : Files) (v : Visit) : Bool := !(v.step fs).1.broken

def visits (fs : Files) (s : Server) (t : Bytes) : List Visit :=
  if s.broken || s.stopped then []
  else match _h : readFrame t with
    | .closed => []
    | .crashed _ => []
    | .failed _ rest => visits fs s rest
    | .message m rest => ⟨s, m⟩ :: visits fs (s.handle fs m).1 rest
termination_by t.length
decreasing_by
  · exact readFrame_failed_lt _h
  · exact readFrame_message_lt _h

def handled (fs : Files) (s : Server) (t : Bytes) : List Message :=
  ((visits fs s t).filter (Visit.completed fs)).map Visit.message

def sent (os : List Output) : List Sent :=
  os.filterMap fun
    | .message x => some x
    | .record _ => none

@[simp] theorem sent_nil : sent [] = [] := rfl

@[simp] theorem sent_message (x : Sent) (os : List Output) :
    sent (.message x :: os) = x :: sent os := rfl

@[simp] theorem sent_append (os os' : List Output) : sent (os ++ os') = sent os ++ sent os' :=
  List.filterMap_append

@[simp] theorem sent_log (s : Server) (rs : List Record) : sent (s.log rs) = [] := by
  rw [sent, log, List.filterMap_map]
  exact List.filterMap_eq_nil_iff.mpr fun _ _ => rfl

@[simp] theorem sent_answer (m : Message) (v : Json) (os : List Output) :
    sent (answer m v :: os) = .result m.id v :: sent os := rfl

theorem mem_sent {x : Sent} {os : List Output} : x ∈ sent os ↔ .message x ∈ os := by
  rw [sent, List.mem_filterMap]
  constructor
  · rintro ⟨o, ho, hx⟩
    cases o with
    | message y =>
      obtain rfl : y = x := Option.some.inj hx
      exact ho
    | record r => cases hx
  · intro h
    exact ⟨_, h, rfl⟩

/-- What is written is the frames of what is sent. -/
theorem written_eq_frames (os : List Output) :
    written os = (sent os).flatMap fun x => frame x.json.write := by
  induction os with
  | nil => rfl
  | cons o os ih =>
    cases o with
    | message x =>
      rw [sent_message, List.flatMap_cons, ← ih]
      rfl
    | record r => exact ih

section Steps

variable {fs : Files} {s : Server} {t : Bytes}

theorem visits_ended (h : s.broken = true ∨ s.stopped = true) : visits fs s t = [] := by
  rw [visits, if_pos (by simpa using h)]

theorem visits_message {rest : Bytes} {m : Message} (hb : s.broken = false)
    (hs : s.stopped = false) (h : readFrame t = .message m rest) :
    visits fs s t = ⟨s, m⟩ :: visits fs (s.handle fs m).1 rest := by
  rw [visits, if_neg (by simp [hb, hs])]
  split <;> simp_all

end Steps

section Running

variable {s : Server}

theorem running (h : ¬ (s.broken || s.stopped) = true) :
    s.broken = false ∧ s.stopped = false := by
  simpa using h

/-- A run sends what its messages call for, and nothing else. -/
theorem sent_serve (fs : Files) (s : Server) (t : Bytes) :
    sent (serve fs s t).outputs = (visits fs s t).flatMap fun v => sent (v.step fs).2 := by
  fun_induction visits fs s t with
  | case1 s t h =>
    rw [Bool.or_eq_true] at h
    by_cases hb : s.broken = true
    · rw [serve_broken hb]
      rfl
    · rw [Bool.not_eq_true] at hb
      rw [serve_stopped hb (h.resolve_left (by simp [hb]))]
      rfl
  | case2 s t h hr =>
    rw [serve_closed (running h).1 (running h).2 fs hr]
    simp [Run.outputs, disconnect]
  | case3 s t h rest hr =>
    rw [serve_crashed (running h).1 (running h).2 fs hr]
    rfl
  | case4 s t h e rest hr ih =>
    rw [serve_failed (running h).1 (running h).2 fs hr, Run.outputs_after, sent_append, ih]
    simp
  | case5 s t h m rest hr ih =>
    rw [serve_message (running h).1 (running h).2 fs hr, Run.outputs_after, sent_append, ih,
      List.flatMap_cons]
    rfl

theorem sent_run (fs : Files) (s : Server) (t : Bytes) :
    sent (run fs s t).outputs = (visits fs s t).flatMap fun v => sent (v.step fs).2 := by
  rw [run_eq_serve, Run.outputs_after, sent_append, sent_log, sent_serve]
  rfl

/-- Whoever is visited is running, and by a message that was read. -/
theorem mem_visits {fs : Files} {t : Bytes} {v : Visit} (h : v ∈ visits fs s t) :
    v.server.broken = false ∧ v.server.stopped = false ∧
      ∃ u rest, readFrame u = .message v.message rest := by
  fun_induction visits fs s t with
  | case1 => cases h
  | case2 => cases h
  | case3 => cases h
  | case4 s t _ e rest _ ih => exact ih h
  | case5 s t hs m rest hr ih =>
    rcases List.mem_cons.mp h with rfl | h
    · exact ⟨(running hs).1, (running hs).2, t, rest, hr⟩
    · exact ih h

/-- All messages that are taken up are handled, but for one that the server does not survive, which
is then the last. -/
theorem handled_or_crashed (fs : Files) (s : Server) (t : Bytes) :
    (visits fs s t).map Visit.message = handled fs s t ∨
      (serve fs s t).stop = .crashed ∧
        ∃ m, (visits fs s t).map Visit.message = handled fs s t ++ [m] := by
  unfold handled
  fun_induction visits fs s t with
  | case1 => exact .inl rfl
  | case2 => exact .inl rfl
  | case3 => exact .inl rfl
  | case4 s t h e rest hr ih => rwa [serve_failed (running h).1 (running h).2 fs hr, Run.stop_after]
  | case5 s t h m rest hr ih =>
    rw [serve_message (running h).1 (running h).2 fs hr, Run.stop_after]
    by_cases hc : Visit.completed fs ⟨s, m⟩ = true
    · rw [List.filter_cons_of_pos hc, List.map_cons, List.map_cons]
      rcases ih with ih | ⟨hs, k, ih⟩
      · exact .inl (by rw [ih])
      · exact .inr ⟨hs, k, by rw [ih]; rfl⟩
    · have hb : (s.handle fs m).1.broken = true := by simpa [Visit.completed, Visit.step] using hc
      rw [List.filter_cons_of_neg hc, visits_ended (.inl hb), serve_broken hb]
      exact .inr ⟨rfl, m, rfl⟩

end Running

section Replies

variable {fs : Files} {s : Server} {m : Message}

/-- The path of the catalogue that a workspace is opened with. Settings that cannot be read count
for nothing. -/
def catalogPathFor (fs : Files) (s : Server) (p : InitializeParams) : Bytes :=
  let s := { s with projectRoot := Uri.toPath p.rootUri }
  (s.chooseCatalog p.catalogPath (s.projectSettings fs).toOption.join).1

def catalogFor? (fs : Files) (s : Server) (p : InitializeParams) : Option Catalog :=
  (Catalog.load fs (s.catalogPathFor fs p)).toOption

private theorem sent_applyLevel (s : Server) (p : Option Settings.Project) :
    sent (s.applyLevel p).2 = [] := by
  unfold applyLevel
  split
  · rfl
  · exact sent_log _ _
  · rfl
  · split
    · exact sent_log _ _
    · exact sent_log _ _

private theorem load_nil (fs : Files) : (Catalog.load fs []).toOption = none := rfl

private theorem startSession_spec (fs : Files) (s : Server) (m : Message) (path : Bytes) :
    (StartBreaks fs path ∧ sent (s.startSession fs m path).2 = []) ∨
    (¬ StartBreaks fs path ∧
      sent (s.startSession fs m path).2 =
        [.result m.id (initializeResult s.version (Catalog.load fs path).toOption)] ∧
      (s.startSession fs m path).1.session =
        ((Catalog.load fs path).toOption.map Session.ofCatalog).or s.session) := by
  unfold startSession
  by_cases hp : path = []
  · subst hp
    refine .inr ⟨fun h => h.1 rfl, ?_, ?_⟩
    · simp [offerNothing, load_nil]
    · simp [offerNothing, load_nil]
  · rw [if_neg (by simpa using hp)]
    cases hl : Catalog.load fs path with
    | ok c =>
      have hs : ∃ records, Session.start fs path = .ok (.ofCatalog c, records) := by
        rw [Session.start, hl]
        exact ⟨_, rfl⟩
      obtain ⟨records, hs⟩ := hs
      rw [hs]
      have hb : ¬ StartBreaks fs path := by
        rintro ⟨_, h⟩
        simp [Catalog.breaksDown, hl] at h
      exact .inr ⟨hb, by simp [Except.toOption, Session.ofCatalog], rfl⟩
    | error e =>
      have hs : Session.start fs path = .error e := by rw [Session.start, hl]; rfl
      rw [hs]
      by_cases he : e.isBreakdown = true
      · exact .inl ⟨⟨hp, by rw [Catalog.breaksDown, hl]; exact he⟩, by simp [he]⟩
      · have hb : ¬ StartBreaks fs path := fun h => by
          rw [StartBreaks, Catalog.breaksDown, hl] at h
          exact he h.2
        exact .inr ⟨hb, by simp [he, offerNothing, Except.toOption],
          by simp [he, offerNothing, Except.toOption]⟩

private theorem enterWorkspace_spec (fs : Files) (s : Server) (m : Message)
    (wanted : Option Bytes) (project : Option Settings.Project) :
    let path := (s.chooseCatalog wanted project).1
    (StartBreaks fs path ∧ sent (s.enterWorkspace fs m wanted project).2 = []) ∨
    (¬ StartBreaks fs path ∧
      sent (s.enterWorkspace fs m wanted project).2 =
        [.result m.id (initializeResult s.version (Catalog.load fs path).toOption)] ∧
      (s.enterWorkspace fs m wanted project).1.session =
        ((Catalog.load fs path).toOption.map Session.ofCatalog).or s.session) := by
  intro path
  obtain ⟨level, hl⟩ := applyLevel_fst s project
  have hsent : sent (s.enterWorkspace fs m wanted project).2 =
      sent ((s.applyLevel project).1.startSession fs m
        ((s.applyLevel project).1.chooseCatalog wanted project).1).2 := by
    simp [enterWorkspace, sent_applyLevel]
  have hserver : (s.enterWorkspace fs m wanted project).1 =
      ((s.applyLevel project).1.startSession fs m
        ((s.applyLevel project).1.chooseCatalog wanted project).1).1 := rfl
  rw [hsent, hserver, hl]
  exact startSession_spec fs { s with level := level } m path

/-- A workspace opened is answered once and has the catalogue that was loaded; one that cannot be
coped with is not answered. -/
theorem openWorkspace_spec (fs : Files) (s : Server) (m : Message) (p : InitializeParams) :
    (BreaksDown fs s p ∧ sent (s.openWorkspace fs m p).2 = []) ∨
    (¬ BreaksDown fs s p ∧
      sent (s.openWorkspace fs m p).2 =
        [.result m.id (initializeResult s.version (s.catalogFor? fs p))] ∧
      (s.openWorkspace fs m p).1.session =
        ((s.catalogFor? fs p).map Session.ofCatalog).or s.session) := by
  have he := enterWorkspace_spec fs { s with projectRoot := Uri.toPath p.rootUri } m p.catalogPath
  unfold openWorkspace BreaksDown catalogFor? catalogPathFor
  simp only
  cases projectSettings fs { s with projectRoot := Uri.toPath p.rootUri } with
  | ok project =>
    simpa [Except.toOption] using he project
  | error e =>
    by_cases hb : e.isBreakdown = true
    · exact .inl ⟨.inl hb, by simp [hb]⟩
    · simpa [hb, Except.toOption] using he none

def Message.reply {α : Type} (m : Message) (params : Option α) (value : α → Json) : Sent :=
  match params with
  | none => .error m.id invalidParams decoderFault
  | some p => .result m.id (value p)

/-- What a message calls for that the server survives. -/
theorem sent_handle (h : (s.handle fs m).1.broken = false) : sent (s.handle fs m).2 =
    match m.kind with
    | .enter => [m.reply (readInitialize m.params) fun p =>
        initializeResult s.version (s.catalogFor? fs p)]
    | .confirm => if s.session.isNone then [noCatalogNotice] else []
    | .shutdown => [.result m.id .null]
    | .exit | .didOpen | .didClose | .didChange => []
    | .completion => [m.reply (readPlace m.params) fun _ => completionResult s.completions.1]
    | .signatureHelp => [m.reply (readHelp m.params) fun p =>
        ((s.signatureHelp p).1.map helpResult).getD .null]
    | .hover => [m.reply (readPlace m.params) fun p =>
        ((s.hover p).map fun (f, r) => hoverResult f r).getD .null]
    | .other =>
      if m.id.isSome then [.error m.id methodNotFound (utf8 "Method not found: " ++ m.method)]
      else [] := by
  rw [handle_fst] at h
  rw [handle_snd, sent_append, sent_log, List.nil_append]
  cases hk : m.kind with
  | enter =>
    rw [dispatch_eq, hk] at h ⊢
    cases hp : readInitialize m.params with
    | none => simp [rejectRequest, Message.reply]
    | some p =>
      rw [hp] at h
      rcases openWorkspace_spec fs s m p with ⟨hb, _⟩ | ⟨_, hs, _⟩
      · have := (openWorkspace_moves fs s m hk p).2.mpr (.inr hb)
        simp only at h
        rw [h] at this
        cases this
      · exact hs
  | confirm =>
    rw [dispatch_eq, hk]
    simp only [confirmWorkspace, sent_append, sent_log, List.nil_append]
    split
    · rfl
    · rfl
  | shutdown =>
    rw [dispatch_eq, hk]
    simp [shutdown]
  | exit =>
    rw [dispatch_eq, hk]
    exact sent_log _ _
  | didOpen =>
    rw [dispatch_eq, hk]
    cases readOpen m.params with
    | none => exact sent_log _ _
    | some d => exact sent_log _ _
  | didClose =>
    rw [dispatch_eq, hk]
    cases readClose m.params with
    | none => exact sent_log _ _
    | some uri => exact sent_log _ _
  | didChange =>
    rw [dispatch_eq, hk]
    cases readChange m.params with
    | none => exact sent_log _ _
    | some p =>
      simp only [changeDocument]
      split
      · rfl
      · rfl
  | completion =>
    rw [dispatch_eq, hk]
    cases readPlace m.params with
    | none => simp [rejectRequest, Message.reply]
    | some p => simp [Message.reply]
  | signatureHelp =>
    rw [dispatch_eq, hk]
    cases readHelp m.params with
    | none => simp [rejectRequest, Message.reply]
    | some p => simp [Message.reply]
  | hover =>
    rw [dispatch_eq, hk]
    cases readPlace m.params with
    | none => simp [rejectRequest, Message.reply]
    | some p => simp [Message.reply]
  | other =>
    rw [dispatch_eq, hk]
    simp only
    split
    · rfl
    · rfl

/-- A message that the server does not survive calls for nothing. -/
theorem sent_handle_broken (hb : s.broken = false) (h : (s.handle fs m).1.broken = true) :
    m.kind = .enter ∧ sent (s.handle fs m).2 = [] := by
  obtain ⟨hk, p, hp, hw⟩ := ((handle_broken fs s m).mp h).resolve_left (by simp [hb])
  refine ⟨hk, ?_⟩
  rw [handle_snd, sent_append, sent_log, List.nil_append, dispatch_eq, hk, hp]
  rcases openWorkspace_spec fs s m p with ⟨_, hs⟩ | ⟨hn, _⟩
  · exact hs
  · exact absurd hw hn

end Replies

end Server

end CallAssist
