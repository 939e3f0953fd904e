import CallAssist.Proofs.Catalog.Index
import CallAssist.Proofs.Json.Strings
import CallAssist.Proofs.Server.History

/-! The lifetime of a session. It is open as long as the server runs, so that no request meets one
that was shut down; and when a run has come to its end without a crash, it is closed. -/

namespace CallAssist

namespace Server

section Closing

/-- The session, if there is one, is closed exactly if the server was told to stop. -/
def Tied (s : Server) : Prop := ∀ x, s.session = some x → x.closed = s.stopped

theorem fresh_tied (catalogPath version : Bytes) (level : Level) (adjustable : Bool) :
    (fresh catalogPath version level adjustable).Tied := by
  intro x hx
  cases hx

private theorem shutdown_closed (x : Session) : x.shutdown.1.closed = true := by
  unfold Session.shutdown
  split
  · assumption
  · rfl

theorem closeSession_closed {s : Server} {x : Session} (h : s.closeSession.1.session = some x) :
    x.closed = true := by
  rw [closeSession_fst] at h
  obtain ⟨y, _, rfl⟩ := Option.map_eq_some_iff.mp h
  exact shutdown_closed y

/-- A message that comes to a running server opens a session or leaves the one there is as it is,
and closes it where it stops the server. -/
theorem Tied.handle {s : Server} (hs : s.Tied) (hrun : s.stopped = false) (fs : Files)
    (m : Message) : (s.handle fs m).1.Tied := by
  have hm := handle_moves fs s m
  generalize (s.handle fs m).1 = s' at hm
  cases hm with
  | stay => exact hs
  | enter => exact hs
  | start =>
    intro x hx
    obtain rfl := Option.some.inj hx
    exact hrun.symm
  | breakDown => exact hs
  | confirm => exact hs
  | stop =>
    intro x hx
    rw [closeSession_closed hx, closeSession_fst]
  | openDocument => exact hs
  | closeDocument => exact hs
  | changeDocument => exact hs

theorem Tied.visits {fs : Files} {s : Server} (hs : s.Tied) {t : Bytes} {v : Visit}
    (hv : v ∈ visits fs s t) : v.server.Tied := by
  fun_induction Server.visits fs s t with
  | case1 => cases hv
  | case2 => cases hv
  | case3 => cases hv
  | case4 s t _ e rest _ ih => exact ih hs hv
  | case5 s t hgoes m rest _ ih =>
    rcases List.mem_cons.mp hv with rfl | hv
    · exact hs
    · exact ih (hs.handle (running hgoes).2 fs m) hv

/-- Whoever takes up a message has an open session or none. -/
theorem Tied.open_of_visit {fs : Files} {s : Server} (hs : s.Tied) {t : Bytes} {v : Visit}
    (hv : v ∈ Server.visits fs s t) {x : Session} (hx : v.server.session = some x) :
    x.closed = false := by
  rw [hs.visits hv x hx]
  exact (mem_visits hv).2.1

/-- A run that does not crash leaves no session open. -/
theorem Tied.serve {fs : Files} {s : Server} (hs : s.Tied) {t : Bytes}
    (hstop : (serve fs s t).stop ≠ .crashed) {x : Session}
    (hx : (Server.serve fs s t).server.session = some x) : x.closed = true := by
  -- the visits of a run follow its loop, so their cases are those of the loop
  fun_induction Server.visits fs s t with
  | case1 s t hended =>
    by_cases hb : s.broken = true
    · rw [serve_broken hb] at hstop
      exact absurd rfl hstop
    · have hstopped : s.stopped = true := by simpa [hb] using hended
      rw [serve_stopped (by simpa using hb) hstopped] at hx
      rw [hs x hx, hstopped]
  | case2 s t hgoes hr =>
    rw [serve_closed (running hgoes).1 (running hgoes).2 fs hr] at hx
    exact closeSession_closed hx
  | case3 s t hgoes rest hr =>
    rw [serve_crashed (running hgoes).1 (running hgoes).2 fs hr] at hstop
    exact absurd rfl hstop
  | case4 s t hgoes e rest hr ih =>
    rw [serve_failed (running hgoes).1 (running hgoes).2 fs hr] at hstop hx
    exact ih hs hstop hx
  | case5 s t hgoes m rest hr ih =>
    rw [serve_message (running hgoes).1 (running hgoes).2 fs hr] at hstop hx
    exact ih (hs.handle (running hgoes).2 fs m) hstop hx

end Closing

section Records

private theorem log_append (s : Server) (rs rs' : List Record) :
    s.log (rs ++ rs') = s.log rs ++ s.log rs' := by
  rw [log, List.filter_append, List.map_append]
  rfl

def unavailable : List String := ["Completion unavailable", "Signature help unavailable"]

def Served (os : List Output) : Prop :=
  ∀ r, .record r ∈ os → ∀ text ∈ unavailable, r.message ≠ utf8 text

theorem Served.append {os os' : List Output} (h : Served os) (h' : Served os') :
    Served (os ++ os') := by
  intro r hr
  rcases List.mem_append.mp hr with hr | hr
  · exact h r hr
  · exact h' r hr

theorem served_nil : Served [] := by
  intro r hr
  cases hr

theorem served_message (x : Sent) : Served [.message x] := by
  intro r hr
  cases List.mem_singleton.mp hr

theorem served_log (s : Server) {rs : List Record}
    (h : ∀ r ∈ rs, ∀ text ∈ unavailable, r.message ≠ utf8 text) : Served (s.log rs) := by
  intro r hr
  obtain ⟨r', hr', he⟩ := List.mem_map.mp hr
  obtain rfl := Output.record.inj he
  exact h r' (List.mem_filter.mp hr').1

theorem served_record (s : Server) (level : Level) {text : String} (attrs : List (String × Bytes))
    (h : text ∉ unavailable) : Served (s.log [.make level text attrs]) := by
  refine served_log s fun r hr other hother => ?_
  rw [List.mem_singleton.mp hr]
  intro hsame
  rw [utf8_injective hsame] at h
  exact h hother

variable {fs : Files} {s : Server} {m : Message}

private theorem applyLevel_served (p : Option Settings.Project) : Served (s.applyLevel p).2 := by
  unfold applyLevel
  split
  · exact served_nil
  · exact served_record s _ _ (by decide)
  · exact served_nil
  · split
    · exact served_record _ _ _ (by decide)
    · exact served_record s _ _ (by decide)

private theorem offerNothing_served (path reason : Bytes) :
    Served (s.offerNothing m path reason).2 :=
  (served_record s _ _ (by decide)).append (served_message _)

private theorem startSession_served (path : Bytes) : Served (s.startSession fs m path).2 := by
  unfold startSession
  split
  · exact offerNothing_served _ _
  · split
    next session loaded hstart =>
      obtain ⟨c, _, hc⟩ := Catalog.exists_of_bind_ok hstart
      obtain ⟨_, rfl⟩ := Prod.mk.inj (Except.ok.inj hc)
      exact (served_record s _ _ (by decide)).append (served_message _)
    next =>
      split
      · exact served_nil
      · exact offerNothing_served _ _

private theorem chooseCatalog_served (wanted : Option Bytes) (p : Option Settings.Project) :
    Served (s.log (s.chooseCatalog wanted p).2) := by
  simp only [chooseCatalog]
  split_ifs
  · exact served_record s _ _ (by decide)
  · exact served_record s _ _ (by decide)
  · exact served_nil

private theorem enterWorkspace_served (wanted : Option Bytes) (p : Option Settings.Project) :
    Served (s.enterWorkspace fs m wanted p).2 :=
  ((applyLevel_served p).append (chooseCatalog_served wanted p)).append (startSession_served _)

private theorem openWorkspace_served (p : InitializeParams) :
    Served (s.openWorkspace fs m p).2 := by
  have hopened (s : Server) :
      Served (s.log [.make .info "Project root" [("path", s.projectRoot)]]) :=
    served_record s _ _ (by decide)
  simp only [openWorkspace]
  split
  · exact (hopened _).append (enterWorkspace_served _ _)
  · split
    · exact hopened _
    · exact ((hopened _).append (served_record _ _ _ (by decide))).append
        (enterWorkspace_served _ _)

private theorem closeSession_served (s s' : Server) : Served (s'.log s.closeSession.2) := by
  unfold closeSession
  split
  · exact served_nil
  · simp only [Session.shutdown]
    split
    · exact served_nil
    · exact served_record s' _ _ (by decide)

private theorem completions_served (h : ∀ x, s.session = some x → x.closed = false) :
    Served (s.log s.completions.2) := by
  unfold completions
  split
  · exact served_nil
  next x hx =>
    simp only [Session.completions, h x hx, Bool.false_eq_true, if_false]
    exact served_nil

private theorem signatureHelp_served (h : ∀ x, s.session = some x → x.closed = false)
    (p : PlaceParams) : Served (s.log (s.signatureHelp p).2) := by
  unfold signatureHelp
  split
  next x d hx hd =>
    simp only [Session.signatureHelp, h x hx, Bool.false_eq_true, if_false]
    cases x.catalog.resolve (d.lineAt p.position).1 (d.lineAt p.position).2 with
    | none => exact served_record s _ _ (by decide)
    | some r =>
      simp only [log_append]
      refine (served_record s _ _ (by decide)).append ?_
      cases p.context with
      | none => exact served_nil
      | some c => exact served_record s _ _ (by decide)
  next => exact served_nil

/-- No message that comes to a server with an open session has it say that the session is not
available. -/
theorem handle_served (h : ∀ x, s.session = some x → x.closed = false) :
    Served (s.handle fs m).2 := by
  rw [handle_snd, dispatch_eq]
  refine (served_record s _ _ (by decide)).append ?_
  have hfault : Served (s.log [handlingFault m]) := served_record s _ _ (by decide)
  have hreject : Served (s.rejectRequest m).2 := (served_message _).append hfault
  cases m.kind with
  | enter =>
    cases readInitialize m.params with
    | none => exact hreject
    | some p => exact openWorkspace_served p
  | confirm =>
    refine (served_record s _ _ (by decide)).append ?_
    split
    · exact served_message _
    · exact served_nil
  | shutdown =>
    exact ((closeSession_served _ _).append (served_message _)).append
      (served_record _ _ _ (by decide))
  | exit =>
    simp only [exit, log_append]
    exact (closeSession_served _ _).append (served_record _ _ _ (by decide))
  | didOpen =>
    cases readOpen m.params with
    | none => exact hfault
    | some d => exact served_record s _ _ (by decide)
  | didClose =>
    cases readClose m.params with
    | none => exact hfault
    | some uri => exact served_record s _ _ (by decide)
  | didChange =>
    cases readChange m.params with
    | none => exact hfault
    | some p =>
      simp only [changeDocument]
      split
      · exact served_nil
      · exact served_nil
  | completion =>
    cases readPlace m.params with
    | none => exact hreject
    | some p => exact (completions_served h).append (served_message _)
  | signatureHelp =>
    cases readHelp m.params with
    | none => exact hreject
    | some p => exact (signatureHelp_served h p).append (served_message _)
  | hover =>
    cases readPlace m.params with
    | none => exact hreject
    | some p => exact served_message _
  | other =>
    simp only
    split
    · exact served_message _
    · exact served_nil

/-- Nothing in a whole run says so. -/
theorem Tied.serve_served (hs : s.Tied) (t : Bytes) : Served (Server.serve fs s t).outputs := by
  fun_induction Server.visits fs s t with
  | case1 s t hended =>
    by_cases hb : s.broken = true
    · rw [serve_broken hb]
      exact served_nil
    · rw [serve_stopped (by simpa using hb) (by simpa [hb] using hended)]
      exact served_nil
  | case2 s t hgoes hr =>
    rw [serve_closed (running hgoes).1 (running hgoes).2 fs hr]
    have hgone : s.disconnect.2 = s.closeSession.1.log
        ([.make .info "Client disconnected" []] ++ s.closeSession.2) := rfl
    refine Served.append ?_ served_nil
    rw [hgone, log_append]
    exact (served_record _ _ _ (by decide)).append (closeSession_served s _)
  | case3 s t hgoes rest hr =>
    rw [serve_crashed (running hgoes).1 (running hgoes).2 fs hr]
    exact served_nil
  | case4 s t hgoes e rest hr ih =>
    rw [serve_failed (running hgoes).1 (running hgoes).2 fs hr, Run.outputs_after]
    exact (served_record s _ _ (by decide)).append (ih hs)
  | case5 s t hgoes m rest hr ih =>
    rw [serve_message (running hgoes).1 (running hgoes).2 fs hr, Run.outputs_after]
    refine (handle_served fun x hx => ?_).append (ih (hs.handle (running hgoes).2 fs m))
    rw [hs x hx, (running hgoes).2]

end Records

/-- In every run of a new server, a message finds the session open if there is one, so that it
answers every request for completions, help or a description, and no record ever says that it is
not available. When the run has come to its end without a crash, the session is closed, whether the
server was told to stop or the stream ended. -/
theorem run_session_lifetime (fs : Files) (catalogPath version : Bytes) (level : Level)
    (adjustable : Bool) (input : Bytes) :
    let s₀ := fresh catalogPath version level adjustable
    let r := run fs s₀ input
    (∀ v ∈ visits fs s₀ input, ∀ x, v.server.session = some x →
      x.closed = false ∧ (∃ cs, x.completions = .ok cs) ∧
        (∀ line offset, ∃ help, x.signatureHelp line offset = .ok help) ∧
        ∀ word, x.describe word = x.catalog.lookup? word) ∧
    (∀ e, .record e ∈ r.outputs → e.message ≠ utf8 "Completion unavailable" ∧
      e.message ≠ utf8 "Signature help unavailable") ∧
    (r.stop ≠ .crashed → ∀ x, r.server.session = some x → x.closed = true) := by
  intro s₀ r
  have htied : s₀.Tied := fresh_tied catalogPath version level adjustable
  refine ⟨?_, ?_, ?_⟩
  · intro v hv x hx
    have hopen := htied.open_of_visit hv hx
    refine ⟨hopen, ⟨_, by rw [Session.completions, hopen]; rfl⟩, ?_, ?_⟩
    · intro line offset
      rw [Session.signatureHelp, hopen]
      simp only [Bool.false_eq_true, if_false]
      cases x.catalog.resolve line offset with
      | none => exact ⟨_, rfl⟩
      | some found => exact ⟨_, rfl⟩
    · intro word
      rw [Session.describe, hopen]
      rfl
  · have hserved : Served r.outputs :=
      (served_record s₀ _ _ (by decide)).append (htied.serve_served input)
    intro e he
    simpa [unavailable] using hserved e he
  · intro hstop x hx
    exact htied.serve hstop hx

end Server

end CallAssist
