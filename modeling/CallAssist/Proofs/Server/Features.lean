import CallAssist.Proofs.Server.History
import CallAssist.Proofs.Server.Wire

/-! Which catalogue a server works with in the course of a run: the one that was loaded last. A
workspace whose catalogue cannot be loaded is offered nothing, but takes nothing away. -/

namespace CallAssist

namespace Server

def Visit.opens (v : Visit) : Bool :=
  v.message.kind = .enter && (readInitialize v.message.params).isSome

/-- The catalogue that a message leads to, if it opens a workspace and the catalogue can be
loaded. -/
def Visit.loads? (fs : Files) (v : Visit) : Option Catalog :=
  if v.message.kind = .enter then
    (readInitialize v.message.params).bind (v.server.catalogFor? fs)
  else none

/-- The catalogue that was loaded last, if any was. -/
def lastLoaded (fs : Files) (vs : List Visit) : Option Catalog :=
  vs.foldl (fun held v => (v.loads? fs).or held) none

/-- A request for a feature gets nothing: no suggestions, no help and no description. -/
structure Visit.Disabled (fs : Files) (v : Visit) : Prop where
  completion : v.message.kind = .completion → (readPlace v.message.params).isSome = true →
    sent (v.step fs).2 = [.result v.message.id (completionResult [])]
  signatureHelp : v.message.kind = .signatureHelp → (readHelp v.message.params).isSome = true →
    sent (v.step fs).2 = [.result v.message.id .null]
  hover : v.message.kind = .hover → (readPlace v.message.params).isSome = true →
    sent (v.step fs).2 = [.result v.message.id .null]

section Step

variable {fs : Files} {s : Server} {m : Message}

/-- A message that the server survives and goes on after leaves it the catalogue it has, or one that
the message leads to. -/
theorem session_handle (h : (s.handle fs m).1.broken = false) (hs : m.isStop = false) :
    (s.handle fs m).1.session =
      ((Visit.loads? fs ⟨s, m⟩).map Session.ofCatalog).or s.session := by
  by_cases hk : m.kind = .enter
  · rw [handle_fst, dispatch_eq, hk] at h ⊢
    cases hp : readInitialize m.params with
    | none => simp [rejectRequest, Visit.loads?, hp]
    | some p =>
      rw [hp] at h
      rcases openWorkspace_spec fs s m p with ⟨hw, _⟩ | ⟨_, _, hsession⟩
      · have := (openWorkspace_moves fs s m hk p).2.mpr (.inr hw)
        simp only at h
        rw [h] at this
        cases this
      · rw [hsession]
        simp [Visit.loads?, hk, hp]
  · have hl : Visit.loads? fs ⟨s, m⟩ = none := if_neg hk
    rw [hl]
    have hm := handle_moves fs s m
    generalize (s.handle fs m).1 = s' at hm
    cases hm with
    | stay => rfl
    | enter hk' => exact absurd hk' hk
    | start hk' => exact absurd hk' hk
    | breakDown hk' => exact absurd hk' hk
    | confirm => rfl
    | stop hs' =>
      rw [hs] at hs'
      cases hs'
    | openDocument => rfl
    | closeDocument => rfl
    | changeDocument => rfl

end Step

private theorem running_of_visits {fs : Files} {s : Server} {t : Bytes} {before after : List Visit}
    {v : Visit} (h : visits fs s t = before ++ v :: after) :
    s.broken = false ∧ s.stopped = false := by
  have hgoes : ¬ (s.broken = true ∨ s.stopped = true) := by
    intro hended
    rw [visits_ended hended] at h
    simp at h
  simpa using hgoes

/-- A message that another one comes after is survived. -/
theorem completed_of_visits {fs : Files} {s : Server} {t : Bytes} {before after : List Visit}
    {v w : Visit} (h : visits fs s t = before ++ v :: after) (hw : w ∈ before) :
    w.completed fs = true := by
  fun_induction visits fs s t generalizing before with
  | case1 => simp at h
  | case2 => simp at h
  | case3 => simp at h
  | case4 s t _ e rest _ ih => exact ih h hw
  | case5 s t _ m rest _ ih =>
    cases before with
    | nil => cases hw
    | cons u before =>
      obtain ⟨rfl, hrest⟩ := List.cons.inj h
      rcases List.mem_cons.mp hw with rfl | hw
      · simp [Visit.completed, Visit.step, (running_of_visits hrest).1]
      · exact ih hrest hw

private theorem session_visits {fs : Files} {s : Server} {t : Bytes} (held : Option Catalog)
    (hs : s.session = held.map Session.ofCatalog) {before after : List Visit} {v : Visit}
    (h : visits fs s t = before ++ v :: after) :
    v.server.session = (before.foldl (fun held v => (v.loads? fs).or held) held).map
      Session.ofCatalog := by
  fun_induction visits fs s t generalizing held before with
  | case1 => simp at h
  | case2 => simp at h
  | case3 => simp at h
  | case4 s t _ e rest _ ih => exact ih held hs h
  | case5 s t _ m rest _ ih =>
    cases before with
    | nil =>
      obtain ⟨rfl, _⟩ := List.cons.inj h
      exact hs
    | cons w before =>
      obtain ⟨rfl, hrest⟩ := List.cons.inj h
      obtain ⟨hbroken, hstopped⟩ := running_of_visits hrest
      rw [handle_stopped, Bool.or_eq_false_iff] at hstopped
      rw [List.foldl_cons]
      refine ih _ ?_ hrest
      rw [session_handle hbroken hstopped.2, hs]
      cases Visit.loads? fs ⟨s, m⟩ with
      | none => rfl
      | some c => rfl

section Served

variable {fs : Files} {v : Visit} {c : Option Catalog}

private theorem survives (hv : v.server.broken = false) (hk : v.message.kind ≠ .enter) :
    (v.server.handle fs v.message).1.broken = false := by
  rw [← Bool.not_eq_true]
  intro hb
  exact hk (sent_handle_broken hv hb).1

private theorem reply_some {α : Type} {m : Message} {params : Option α} {w : Json}
    (h : params.isSome = true) : m.reply params (fun _ => w) = .result m.id w := by
  obtain ⟨p, rfl⟩ := Option.isSome_iff_exists.mp h
  rfl

private theorem completions_eq {s : Server} (h : s.session = c.map Session.ofCatalog) :
    s.completions.1 = ((c.map Catalog.functions).getD []).map .ofFunction := by
  rw [completions, h]
  cases c with
  | none => rfl
  | some c => rfl

/-- Opening a workspace offers what was loaded for it. -/
theorem Visit.sent_opens (hc : v.completed fs = true) (ho : v.opens = true) :
    sent (v.step fs).2 =
      [.result v.message.id (initializeResult v.server.version (v.loads? fs))] := by
  have hb : (v.server.handle fs v.message).1.broken = false := by
    simpa [Visit.completed, Visit.step] using hc
  obtain ⟨hk, hp⟩ : v.message.kind = .enter ∧ (readInitialize v.message.params).isSome = true := by
    simpa [Visit.opens] using ho
  obtain ⟨p, hp⟩ := Option.isSome_iff_exists.mp hp
  rw [Visit.step, sent_handle hb, hk, Visit.loads?, if_pos hk, hp]
  rfl

/-- Completions are served from the catalogue that the session has. -/
theorem Visit.sent_completion (hv : v.server.broken = false)
    (hs : v.server.session = c.map Session.ofCatalog) (hk : v.message.kind = .completion)
    (hp : (readPlace v.message.params).isSome = true) : sent (v.step fs).2 =
      [.result v.message.id
        (completionResult (((c.map Catalog.functions).getD []).map .ofFunction))] := by
  rw [Visit.step, sent_handle (survives hv (by simp [hk])), hk]
  simp only
  rw [reply_some hp, completions_eq hs]

/-- Without a session there is nothing to serve. -/
theorem Visit.disabled (hv : v.server.broken = false) (hs : v.server.session = none) :
    v.Disabled fs where
  completion hk hp := Visit.sent_completion (c := none) hv hs hk hp
  signatureHelp hk hp := by
    rw [Visit.step, sent_handle (survives hv (by simp [hk])), hk]
    simp only [Server.signatureHelp, hs]
    exact congrArg (fun x => [x]) (reply_some hp)
  hover hk hp := by
    rw [Visit.step, sent_handle (survives hv (by simp [hk])), hk]
    simp only [Server.hover, hs]
    exact congrArg (fun x => [x]) (reply_some hp)

private theorem completionResult_inj_nil {cs : List Completion}
    (h : completionResult cs = completionResult []) : cs = [] := by
  simpa [completionResult, Json.field] using h

end Served

/-- In every run of a new server, what is served for a request comes from the catalogue that was
loaded last. Each workspace opened is offered features exactly when its own catalogue was loaded;
but one whose catalogue was not does not take away the features that there are. So completions are
empty exactly where no catalogue was loaded before, whatever came of opening a workspace since, or
the one loaded last has no functions. -/
theorem features_of_last_load (fs : Files) (catalogPath version : Bytes) (level : Level)
    (adjustable : Bool) (input : Bytes) {before after : List Visit} {v : Visit}
    (h : visits fs (fresh catalogPath version level adjustable) input = before ++ v :: after) :
    (∀ w ∈ before, w.opens = true → sent (w.step fs).2 =
      [.result w.message.id (initializeResult w.server.version (w.loads? fs))]) ∧
    v.server.session = (lastLoaded fs before).map Session.ofCatalog ∧
    (lastLoaded fs before = none → v.Disabled fs) ∧
    (v.message.kind = .completion → (readPlace v.message.params).isSome = true →
      sent (v.step fs).2 = [.result v.message.id (completionResult
        ((((lastLoaded fs before).map Catalog.functions).getD []).map .ofFunction))] ∧
      (sent (v.step fs).2 = [.result v.message.id (completionResult [])] ↔
        ∀ c, lastLoaded fs before = some c → c.functions = [])) := by
  have hsession : v.server.session = (lastLoaded fs before).map Session.ofCatalog :=
    session_visits none rfl h
  have hv : v.server.broken = false := by
    have hmem : v ∈ visits fs (fresh catalogPath version level adjustable) input := by
      rw [h]
      simp
    exact (mem_visits hmem).1
  refine ⟨fun w hw ho => Visit.sent_opens (completed_of_visits h hw) ho, hsession, ?_, ?_⟩
  · intro hnone
    refine Visit.disabled hv ?_
    rw [hsession, hnone]
    rfl
  · intro hk hp
    rw [Visit.sent_completion hv hsession hk hp]
    refine ⟨rfl, ?_⟩
    constructor
    · intro hnil c hc
      have hnil := completionResult_inj_nil (Sent.result.inj (List.cons.inj hnil).1).2
      simpa [hc] using hnil
    · intro hall
      cases hl : lastLoaded fs before with
      | none => rfl
      | some c => simp [hall c hl]

section Reopened

private theorem visits_frame {fs : Files} {s : Server} {body : Bytes} {m : Message}
    (hs : s.broken = false ∧ s.stopped = false) (hfit : body.length ≤ maxLength)
    (hm : Message.parse? body = some m) (rest : Bytes) :
    visits fs s (frame body ++ rest) = ⟨s, m⟩ :: visits fs (s.handle fs m).1 rest :=
  visits_message hs.1 hs.2 (readFrame_frame hfit hm rest)

def reopenedFiles : Files :=
  ⟨[], [([utf8 "c.json"], .file
    (utf8 "[\x7b\"name\":\"f\",\"params\":[],\"description\":\"\"\x7d]"))]⟩

def openingBody : Bytes := utf8 "\x7b\"id\":1,\"method\":\"initialize\",\"params\":\x7b\x7d\x7d"

def reopeningBody : Bytes :=
  utf8 ("\x7b\"id\":2,\"method\":\"initialize\",\"params\":\x7b" ++
    "\"initializationOptions\":\x7b\"catalogPath\":\"/x.json\"\x7d\x7d\x7d")

def askingBody : Bytes :=
  utf8 "\x7b\"id\":3,\"method\":\"textDocument/completion\",\"params\":\x7b\x7d\x7d"

def reopenedInput : Bytes := [openingBody, reopeningBody, askingBody].flatMap frame

def reopenedServer : Server := fresh (utf8 "/c.json") [] .info true

/-- The catalogue that was loaded first is still the one that was loaded last. -/
theorem features_of_last_load_reopened : ∃ before v after,
    visits reopenedFiles reopenedServer reopenedInput = before ++ v :: after ∧
    (before.map fun w => (w.opens, (w.loads? reopenedFiles).isSome)) =
      [(true, true), (true, false)] ∧
    sent (v.step reopenedFiles).2 =
      [.result v.message.id (completionResult [.ofFunction ⟨utf8 "f", [], []⟩])] := by
  let s := reopenedServer
  let go (s : Server) (m : Message) : Server := (s.handle reopenedFiles m).1
  let runs (s : Server) : Bool := !s.broken && !s.stopped
  have hread : (Message.parse? openingBody).any (fun m => (Message.parse? reopeningBody).any
      fun n => (Message.parse? askingBody).any fun k =>
        let before : List Visit := [⟨s, m⟩, ⟨go s m, n⟩]
        runs (go s m) && runs (go (go s m) n) && k.kind == .completion &&
        (readPlace k.params).isSome &&
        (before.map fun w => (w.opens, (w.loads? reopenedFiles).isSome)) ==
          [(true, true), (true, false)] &&
        (lastLoaded reopenedFiles before).map Catalog.functions == some [⟨utf8 "f", [], []⟩]) =
      true := by
    decide +kernel
  obtain ⟨m, hm, hread⟩ := (Option.any_eq_true _ _).mp hread
  obtain ⟨n, hn, hread⟩ := (Option.any_eq_true _ _).mp hread
  obtain ⟨k, hk, hread⟩ := (Option.any_eq_true _ _).mp hread
  simp only [Bool.and_eq_true, beq_iff_eq, runs, Bool.not_eq_true'] at hread
  obtain ⟨⟨⟨⟨⟨hs₁, hs₂⟩, hkind⟩, hplace⟩, hopened⟩, hloaded⟩ := hread
  have hvisits : visits reopenedFiles s reopenedInput =
      [⟨s, m⟩, ⟨go s m, n⟩] ++ ⟨go (go s m) n, k⟩ ::
        visits reopenedFiles (go (go (go s m) n) k) [] := by
    rw [reopenedInput, List.flatMap_cons, List.flatMap_cons, List.flatMap_cons, List.flatMap_nil,
      visits_frame ⟨rfl, rfl⟩ (by decide) hm, visits_frame hs₁ (by decide) hn,
      visits_frame hs₂ (by decide) hk]
    rfl
  obtain ⟨_, _, _, hcompletion⟩ := features_of_last_load _ _ _ _ _ _ hvisits
  refine ⟨_, _, _, hvisits, hopened, ?_⟩
  rw [(hcompletion hkind hplace).1, hloaded]
  rfl

/-- What is written then: features, none, and a suggestion all the same. -/
theorem run_reopened :
    (run reopenedFiles reopenedServer reopenedInput).written =
      [Sent.result (some (.ofNat 1)) (initializeResult [] (some
          (Catalog.empty.push ⟨utf8 "f", [], []⟩))),
        .result (some (.ofNat 2)) (initializeResult [] none),
        .result (some (.ofNat 3)) (completionResult [.ofFunction ⟨utf8 "f", [], []⟩])].flatMap
      Sent.write := by
  decide +kernel

end Reopened

end Server

end CallAssist
