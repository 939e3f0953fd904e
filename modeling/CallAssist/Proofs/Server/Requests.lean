import CallAssist.Proofs.Server.History
import CallAssist.Proofs.Server.Wire

/-! Requests and their answers. Whatever has an identifier and asks for something is answered once,
in its turn; what has no identifier is answered as well where the method is one that asks. -/

namespace CallAssist

namespace Server

open Json

def silentMethods : List Bytes := [utf8 "initialized", utf8 "exit", utf8 "textDocument/didOpen",
  utf8 "textDocument/didClose", utf8 "textDocument/didChange"]

def askingMethods : List Bytes := [utf8 "initialize", utf8 "shutdown",
  utf8 "textDocument/completion", utf8 "textDocument/signatureHelp", utf8 "textDocument/hover"]

def Message.isRequest (m : Message) : Bool := m.id.isSome && !silentMethods.contains m.method

def Message.paramsFit (m : Message) : Bool :=
  match m.kind with
  | .enter => (readInitialize m.params).isSome
  | .completion | .hover => (readPlace m.params).isSome
  | .signatureHelp => (readHelp m.params).isSome
  | _ => true

/-- A message that answers another: under its identifier, with a result or an error but not both,
and an error only for a method that is not known or parameters that cannot be read. -/
structure Answers (m r : Message) : Prop where
  id : r.id.map respelled = m.id.map respelled
  one : r.result.isSome = !r.error.isSome
  unknown : r.error.map Fault.code = some methodNotFound ↔ m.method ∉ silentMethods ++ askingMethods
  unreadable : r.error.map Fault.code = some invalidParams ↔ m.paramsFit = false
  codes : ∀ e, r.error = some e → e.code = methodNotFound ∨ e.code = invalidParams

def Sent.spelled : Sent → List Json
  | .result id v => id.toList ++ [v]
  | .error id _ _ => id.toList
  | .notification _ params => [params]

def Sent.encode? (x : Sent) : Option Bytes :=
  if x.spelled.all fun v => (parse v.write).isSome then some x.json.write else none

def Message.hasId (m : Message) : Bool := m.id.isSome

def IsResponse (body : Bytes) : Prop :=
  ∃ r, Message.parse? body = some r ∧ (r.result.isSome = true ∨ r.error.isSome = true)

section Kinds

variable (m : Message)

theorem mem_silentMethods : m.method ∈ silentMethods ↔ m.kind = .confirm ∨ m.kind = .exit ∨
    m.kind = .didOpen ∨ m.kind = .didClose ∨ m.kind = .didChange := by
  rw [kind_eq_iff (show (utf8 "initialized", Kind.confirm) ∈ Kind.names by simp [Kind.names]),
    kind_eq_iff (show (utf8 "exit", Kind.exit) ∈ Kind.names by simp [Kind.names]),
    kind_eq_iff (show (utf8 "textDocument/didOpen", Kind.didOpen) ∈ Kind.names by
      simp [Kind.names]),
    kind_eq_iff (show (utf8 "textDocument/didClose", Kind.didClose) ∈ Kind.names by
      simp [Kind.names]),
    kind_eq_iff (show (utf8 "textDocument/didChange", Kind.didChange) ∈ Kind.names by
      simp [Kind.names])]
  simp [silentMethods]

theorem mem_askingMethods : m.method ∈ askingMethods ↔ m.kind = .enter ∨ m.kind = .shutdown ∨
    m.kind = .completion ∨ m.kind = .signatureHelp ∨ m.kind = .hover := by
  rw [kind_eq_iff (show (utf8 "initialize", Kind.enter) ∈ Kind.names by simp [Kind.names]),
    kind_eq_iff (show (utf8 "shutdown", Kind.shutdown) ∈ Kind.names by simp [Kind.names]),
    kind_eq_iff (show (utf8 "textDocument/completion", Kind.completion) ∈ Kind.names by
      simp [Kind.names]),
    kind_eq_iff (show (utf8 "textDocument/signatureHelp", Kind.signatureHelp) ∈ Kind.names by
      simp [Kind.names]),
    kind_eq_iff (show (utf8 "textDocument/hover", Kind.hover) ∈ Kind.names by
      simp [Kind.names])]
  simp [askingMethods]

theorem not_mem_methods :
    m.method ∉ silentMethods ++ askingMethods ↔ m.kind = .other := by
  rw [List.mem_append, mem_silentMethods, mem_askingMethods]
  cases m.kind <;> simp

theorem isRequest_iff : m.isRequest = true ↔ m.id.isSome = true ∧ m.method ∉ silentMethods := by
  simp [Message.isRequest]

end Kinds

section Parts

variable {m : Message}

private theorem answers_result (hm : m.Received) (hk : m.kind ≠ .other) (hp : m.paramsFit = true)
    (v : Json) : Answers m (guardedParts (Sent.result m.id v).message) where
  id := by
    cases hid : m.id with
    | none => rfl
    | some w => exact congrArg some (hm.wellRead.id w hid).2.respelled_guarded
  one := rfl
  unknown := by
    rw [not_mem_methods]
    exact ⟨fun h => (by cases h), fun h => absurd h hk⟩
  unreadable := by
    rw [hp]
    exact ⟨fun h => (by cases h), fun h => (by cases h)⟩
  codes e he := by cases he

private theorem answers_error (hm : m.Received) {code : Int} (text : Bytes)
    (h : code = methodNotFound ∧ m.kind = .other ∨
      code = invalidParams ∧ m.kind ≠ .other ∧ m.paramsFit = false) :
    Answers m (guardedParts (Sent.error m.id code text).message) where
  id := by
    cases hid : m.id with
    | none => rfl
    | some w => exact congrArg some (hm.wellRead.id w hid).2.respelled_guarded
  one := rfl
  unknown := by
    rw [not_mem_methods]
    change some code = some methodNotFound ↔ _
    rcases h with ⟨rfl, hk⟩ | ⟨rfl, hk, _⟩
    · simp [hk]
    · simp [hk, invalidParams, methodNotFound]
  unreadable := by
    change some code = some invalidParams ↔ _
    rcases h with ⟨rfl, hk⟩ | ⟨rfl, _, hp⟩
    · simp [Message.paramsFit, hk, invalidParams, methodNotFound]
    · simp [hp]
  codes e he := by
    obtain rfl := Option.some.inj he
    rcases h with ⟨rfl, _⟩ | ⟨rfl, _⟩
    · exact .inl rfl
    · exact .inr rfl

end Parts

section Visits

variable {fs : Files} {v : Visit}

private theorem broken_of_completed (hc : v.completed fs = true) :
    (v.server.handle fs v.message).1.broken = false := by
  simpa [Visit.completed, Visit.step] using hc

private theorem answers_reply {m : Message} (hm : m.Received) (hk : m.kind ≠ .other) {α : Type}
    {params : Option α} (hp : m.paramsFit = params.isSome) (value : α → Json) :
    (m.reply params value).message.id = m.id ∧
      Answers m (guardedParts (m.reply params value).message) := by
  cases params with
  | none => exact ⟨rfl, answers_error hm _ (.inr ⟨rfl, hk, hp⟩)⟩
  | some p => exact ⟨rfl, answers_result hm hk hp _⟩

/-- A method that asks is answered, with or without an identifier, and nothing else is sent. -/
theorem Visit.sent_asking (hm : v.message.Received) (hc : v.completed fs = true)
    (h : v.message.method ∈ askingMethods) : ∃ x, sent (v.step fs).2 = [x] ∧
      x.message.id = v.message.id ∧ Answers v.message (guardedParts x.message) := by
  rw [mem_askingMethods] at h
  rw [Visit.step, sent_handle (broken_of_completed hc)]
  rcases h with hk | hk | hk | hk | hk
  · rw [hk]
    exact ⟨_, rfl, answers_reply hm (by simp [hk]) (by simp [Message.paramsFit, hk]) _⟩
  · rw [hk]
    exact ⟨_, rfl, rfl, answers_result hm (by simp [hk]) (by simp [Message.paramsFit, hk]) _⟩
  · rw [hk]
    exact ⟨_, rfl, answers_reply hm (by simp [hk]) (by simp [Message.paramsFit, hk]) _⟩
  · rw [hk]
    exact ⟨_, rfl, answers_reply hm (by simp [hk]) (by simp [Message.paramsFit, hk]) _⟩
  · rw [hk]
    exact ⟨_, rfl, answers_reply hm (by simp [hk]) (by simp [Message.paramsFit, hk]) _⟩

/-- A method that asks for nothing gets at most a notice. -/
theorem Visit.sent_silent (hv : v.server.broken = false) (h : v.message.method ∈ silentMethods) :
    ∀ x ∈ sent (v.step fs).2, x = noCatalogNotice := by
  rw [mem_silentMethods] at h
  have hb : (v.server.handle fs v.message).1.broken = false := by
    rw [← Bool.not_eq_true]
    intro hb
    have hk := (sent_handle_broken hv hb).1
    simp [hk] at h
  rw [Visit.step, sent_handle hb]
  rcases h with hk | hk | hk | hk | hk
  · rw [hk]
    simp only
    split
    · exact fun x hx => List.mem_singleton.mp hx
    · exact fun x hx => by cases hx
  all_goals
    rw [hk]
    exact fun x hx => by cases hx

/-- A method that is not known is answered where there is an identifier. -/
theorem Visit.sent_unknown (hv : v.server.broken = false)
    (h : v.message.method ∉ silentMethods ++ askingMethods) : sent (v.step fs).2 =
      if v.message.id.isSome then [.error v.message.id methodNotFound
        (utf8 "Method not found: " ++ v.message.method)]
      else [] := by
  rw [not_mem_methods] at h
  have hb : (v.server.handle fs v.message).1.broken = false := by
    rw [← Bool.not_eq_true]
    intro hb
    have hk := (sent_handle_broken hv hb).1
    rw [hk] at h
    cases h
  rw [Visit.step, sent_handle hb, h]

/-- A request that the server survives is answered, and nothing else is sent for it. -/
theorem Visit.sent_request (hv : v.server.broken = false) (hm : v.message.Received)
    (hc : v.completed fs = true) (hr : v.message.isRequest = true) :
    ∃ x, sent (v.step fs).2 = [x] ∧ x.message.id = v.message.id ∧
      Answers v.message (guardedParts x.message) := by
  obtain ⟨hid, hsilent⟩ := (isRequest_iff _).mp hr
  by_cases ha : v.message.method ∈ askingMethods
  · exact Visit.sent_asking hm hc ha
  · have hu : v.message.method ∉ silentMethods ++ askingMethods := by simp [hsilent, ha]
    rw [Visit.sent_unknown hv hu, if_pos hid]
    exact ⟨_, rfl, rfl, answers_error hm _ (.inl ⟨rfl, (not_mem_methods _).mp hu⟩)⟩

/-- Anything else gets no frame with an identifier. -/
theorem Visit.sent_other (hv : v.server.broken = false) (hm : v.message.Received)
    (h : v.completed fs = false ∨ v.message.isRequest = false) :
    ∀ x ∈ sent (v.step fs).2, x.message.id = none := by
  intro x hx
  by_cases hc : v.completed fs = true
  · have hr : v.message.isRequest = false := h.resolve_left (by simp [hc])
    by_cases hs : v.message.method ∈ silentMethods
    · rw [Visit.sent_silent hv hs x hx]
      rfl
    · have hid : v.message.id = none := by simpa [Message.isRequest, hs] using hr
      by_cases ha : v.message.method ∈ askingMethods
      · obtain ⟨y, hy, hyid, _⟩ := Visit.sent_asking hm hc ha
        rw [hy, List.mem_singleton] at hx
        rw [hx, hyid, hid]
      · rw [Visit.sent_unknown hv (by simp [hs, ha]), hid] at hx
        cases hx
  · have hb : (v.server.handle fs v.message).1.broken = true := by
      simpa [Visit.completed, Visit.step] using hc
    rw [Visit.step, (sent_handle_broken hv hb).2] at hx
    cases hx

private theorem sendable_of_mem_sent (hm : v.message.Received) {x : Sent}
    (hx : x ∈ sent (v.step fs).2) : x.Sendable :=
  hm.handle_sendable fs v.server (mem_sent.mp hx)

/-- A response is a frame that was sent as one. -/
theorem Sent.Sendable.isResponse_iff {x : Sent} (h : x.Sendable) : IsResponse x.json.write ↔
    x.message.result.isSome = true ∨ x.message.error.isSome = true := by
  rw [IsResponse, parse?_json h]
  constructor
  · rintro ⟨r, hr, hsome⟩
    obtain rfl := Option.some.inj hr
    simpa [guardedParts] using hsome
  · intro hsome
    exact ⟨_, rfl, by simpa [guardedParts] using hsome⟩

theorem Sent.Sendable.encode?_eq {x : Sent} (h : x.Sendable) :
    x.encode? = some x.json.write := by
  have hparse {w : Json} (hw : Proper (maxDepth - 1) w) : (parse w.write).isSome = true := by
    rw [parse_write (hw.mono (Nat.sub_le _ _))]
    rfl
  have hid {id : Option Json} (hi : ReceivedId id) :
      ∀ w ∈ id.toList, (parse w.write).isSome = true :=
    fun w hw => hparse (hi.proper (Option.mem_toList.mp hw)).2
  rw [encode?, if_pos]
  rw [List.all_eq_true]
  cases x with
  | result id v =>
    intro w hw
    rcases List.mem_append.mp hw with hw | hw
    · exact hid h.1 w hw
    · rw [List.mem_singleton.mp hw]
      exact hparse h.2
  | error id code text => exact hid h.1
  | notification method params =>
    intro w hw
    rw [List.mem_singleton.mp hw]
    exact hparse h.2

end Visits

private theorem visits_answered {fs : Files} {vs : List Visit}
    (h : ∀ v ∈ vs, v.server.broken = false ∧ v.message.Received) :
    List.Forall₂ Answers
      (((vs.filter (Visit.completed fs)).map Visit.message).filter Message.isRequest)
      (((vs.flatMap fun v => sent (v.step fs).2).map fun x => guardedParts x.message).filter
        Message.hasId) := by
  induction vs with
  | nil => exact .nil
  | cons v vs ih =>
    obtain ⟨⟨hv, hm⟩, hvs⟩ := List.forall_mem_cons.mp h
    have ih := ih hvs
    rw [List.flatMap_cons, List.map_append, List.filter_append]
    by_cases hr : v.completed fs = true ∧ v.message.isRequest = true
    · obtain ⟨x, hx, hid, ha⟩ := Visit.sent_request hv hm hr.1 hr.2
      have hsome : (guardedParts x.message).hasId = true := by
        have := ((isRequest_iff _).mp hr.2).1
        rw [← hid] at this
        simpa [guardedParts, Message.hasId] using this
      rw [List.filter_cons_of_pos hr.1, List.map_cons, List.filter_cons_of_pos hr.2, hx]
      rw [List.map_singleton, List.filter_cons_of_pos hsome, List.filter_nil, List.singleton_append]
      exact .cons ha ih
    · have hno : ((sent (v.step fs).2).map fun x => guardedParts x.message).filter
          Message.hasId = [] := by
        rw [List.filter_eq_nil_iff]
        intro r hr'
        obtain ⟨x, hx, rfl⟩ := List.mem_map.mp hr'
        have := Visit.sent_other hv hm (by simpa [or_iff_not_imp_left] using hr) x hx
        simp [guardedParts, Message.hasId, this]
      rw [hno, List.nil_append]
      by_cases hc : v.completed fs = true
      · have hn : ¬ v.message.isRequest = true := fun hq => hr ⟨hc, hq⟩
        rw [List.filter_cons_of_pos hc, List.map_cons, List.filter_cons_of_neg hn]
        exact ih
      · rw [List.filter_cons_of_neg hc]
        exact ih

private theorem received_of_mem_visits {fs : Files} {s : Server} {t : Bytes} {v : Visit}
    (h : v ∈ visits fs s t) : v.server.broken = false ∧ v.message.Received :=
  ⟨(mem_visits h).1, (mem_visits h).2.2⟩

private theorem visits_shutdown (fs : Files) {s : Server} {m : Message} {body : Bytes}
    (hb : s.broken = false) (hs : s.stopped = false) (hfit : body.length ≤ maxLength)
    (hm : Message.parse? body = some m) (hk : m.kind = .shutdown) :
    visits fs s (frame body) = [⟨s, m⟩] ∧ Visit.completed fs ⟨s, m⟩ = true := by
  have hr : readFrame (frame body) = .message m [] := by
    simpa using readFrame_frame hfit hm []
  have hstopped : (s.handle fs m).1.stopped = true := by
    rw [handle_stopped, m.isStop_iff.mpr (.inl hk), Bool.or_true]
  have hbroken : (s.handle fs m).1.broken = false := by
    rw [← Bool.not_eq_true, handle_broken, hk]
    simp [hb]
  refine ⟨?_, by simp [Visit.completed, Visit.step, hbroken]⟩
  rw [visits_message hb hs hr, visits_ended (.inr hstopped)]

/-- In every run, all messages that are taken up are handled but for one that the server does not
survive. What is written is frames, and each can be read; of those with an identifier there is one
for each request that was handled, in order, and it answers that request. Methods that ask for
nothing are not answered, and no body fails to be encoded. -/
theorem run_answers_requests (fs : Files) (s : Server) (input : Bytes) :
    let r := run fs s input
    let bodies := (sent r.outputs).map fun x => x.json.write
    ((visits fs s input).map Visit.message = handled fs s input ∨
      r.stop = .crashed ∧
        ∃ m, (visits fs s input).map Visit.message = handled fs s input ++ [m]) ∧
    r.written = bodies.flatMap frame ∧
    (∃ replies : List Message, bodies.map Message.parse? = replies.map some ∧
      List.Forall₂ Answers ((handled fs s input).filter Message.isRequest)
        (replies.filter Message.hasId)) ∧
    (∀ v ∈ visits fs s input, v.message.method ∈ silentMethods →
      ∀ x ∈ sent (v.step fs).2, ¬ IsResponse x.json.write) ∧
    ∀ x ∈ sent r.outputs, x.encode? = some x.json.write := by
  intro r bodies
  have hsendable : ∀ x ∈ sent r.outputs, x.Sendable := by
    intro x hx
    rw [sent_run, List.mem_flatMap] at hx
    obtain ⟨v, hv, hx⟩ := hx
    exact sendable_of_mem_sent (received_of_mem_visits hv).2 hx
  refine ⟨handled_or_crashed fs s input, ?_, ?_, ?_, fun x hx => (hsendable x hx).encode?_eq⟩
  · rw [Run.written, written_eq_frames, List.flatMap_map]
  · refine ⟨(sent r.outputs).map fun x => guardedParts x.message, ?_, ?_⟩
    · rw [List.map_map, List.map_map]
      exact List.map_congr_left fun x hx => parse?_json (hsendable x hx)
    · rw [sent_run]
      exact visits_answered fun v hv => received_of_mem_visits hv
  · intro v hv hsilent x hx
    have hs : x.Sendable := sendable_of_mem_sent (received_of_mem_visits hv).2 hx
    rw [hs.isResponse_iff, Visit.sent_silent (received_of_mem_visits hv).1 hsilent x hx]
    simp [noCatalogNotice, Sent.message]

/-- A request in a frame of its own is taken up, handled and answered under its identifier. -/
theorem run_answers_shutdown : ∃ m : Message,
    Message.parse? (utf8 "\x7b\"id\":7,\"method\":\"shutdown\"\x7d") = some m ∧
    let fs : Files := ⟨[], []⟩
    let s := fresh [] [] .info true
    let input := frame (utf8 "\x7b\"id\":7,\"method\":\"shutdown\"\x7d")
    handled fs s input = [m] ∧ m.isRequest = true ∧
      ∃ replies : List Message, ((sent (run fs s input).outputs).map
        fun x => Message.parse? x.json.write) = replies.map some ∧
        ∃ r, replies.filter Message.hasId = [r] ∧ Answers m r := by
  have hread : (Message.parse? (utf8 "\x7b\"id\":7,\"method\":\"shutdown\"\x7d")).any
      (fun m => m.id.isSome && m.method == utf8 "shutdown") = true := by
    decide +kernel
  obtain ⟨m, hm, hcheck⟩ := (Option.any_eq_true _ _).mp hread
  simp only [Bool.and_eq_true, beq_iff_eq] at hcheck
  have hk : m.kind = .shutdown := (kind_eq_iff (by simp [Kind.names]) m).mpr hcheck.2
  refine ⟨m, hm, ?_⟩
  intro fs s input
  obtain ⟨hv, hc⟩ := visits_shutdown fs (s := s) rfl rfl (by decide) hm hk
  have hr : m.isRequest = true := by
    rw [isRequest_iff, mem_silentMethods, hk]
    exact ⟨hcheck.1, by simp⟩
  have hh : handled fs s input = [m] := by
    rw [handled, hv, List.filter_cons_of_pos hc]
    rfl
  obtain ⟨_, _, ⟨replies, hparse, hall⟩, _⟩ := run_answers_requests fs s input
  rw [hh, List.filter_cons_of_pos hr, List.filter_nil] at hall
  rw [List.map_map] at hparse
  refine ⟨hh, hr, replies, hparse, ?_⟩
  obtain ⟨r, rs, ha, hrs, hfilter⟩ := List.forall₂_cons_left_iff.mp hall
  rw [List.forall₂_nil_left_iff.mp hrs] at hfilter
  exact ⟨r, hfilter, ha⟩

/-- A message without an identifier is answered exactly where its method asks for something and the
server survives it. The answer is then all that is sent, and it has no identifier either. -/
theorem notification_answered_iff (fs : Files) (s : Server) (input : Bytes) {v : Visit}
    (hv : v ∈ visits fs s input) (hid : v.message.id = none) :
    ((∃ x ∈ sent (v.step fs).2, IsResponse x.json.write) ↔
      v.message.method ∈ askingMethods ∧ v.completed fs = true) ∧
    (v.message.method ∈ askingMethods → v.completed fs = true →
      ∃ x, sent (v.step fs).2 = [x] ∧ x.message.id = none) := by
  obtain ⟨hb, hm⟩ := received_of_mem_visits hv
  have hanswer : v.message.method ∈ askingMethods → v.completed fs = true →
      ∃ x, sent (v.step fs).2 = [x] ∧ x.message.id = none ∧ IsResponse x.json.write := by
    intro ha hc
    obtain ⟨x, hx, hxid, hone⟩ := Visit.sent_asking hm hc ha
    have hs : x.Sendable := sendable_of_mem_sent hm (by rw [hx]; exact List.mem_singleton_self x)
    refine ⟨x, hx, hxid.trans hid, hs.isResponse_iff.mpr ?_⟩
    have := hone.one
    simp only [guardedParts, Option.isSome_map] at this
    rw [this]
    cases x.message.error.isSome <;> simp
  refine ⟨⟨?_, ?_⟩, ?_⟩
  · rintro ⟨x, hx, hr⟩
    have hs : x.Sendable := sendable_of_mem_sent hm hx
    rw [hs.isResponse_iff] at hr
    have hc : v.completed fs = true := by
      by_contra hc
      have hb' : (v.server.handle fs v.message).1.broken = true := by
        simpa [Visit.completed, Visit.step] using hc
      rw [Visit.step, (sent_handle_broken hb hb').2] at hx
      cases hx
    refine ⟨?_, hc⟩
    by_contra ha
    by_cases hsilent : v.message.method ∈ silentMethods
    · rw [Visit.sent_silent hb hsilent x hx] at hr
      simp [noCatalogNotice, Sent.message] at hr
    · rw [Visit.sent_unknown hb (by simp [hsilent, ha]), hid] at hx
      cases hx
  · rintro ⟨ha, hc⟩
    obtain ⟨x, hx, _, hr⟩ := hanswer ha hc
    exact ⟨x, by rw [hx]; exact List.mem_singleton_self x, hr⟩
  · intro ha hc
    obtain ⟨x, hx, hxid, _⟩ := hanswer ha hc
    exact ⟨x, hx, hxid⟩

/-- A message without an identifier that tells the server to stop is answered. -/
theorem notification_answered_shutdown : ∃ m : Message, m.id = none ∧
    let v : Visit := ⟨fresh [] [] .info true, m⟩
    v ∈ visits ⟨[], []⟩ (fresh [] [] .info true)
      (frame (utf8 "\x7b\"method\":\"shutdown\"\x7d")) ∧
    ∃ x ∈ sent (v.step ⟨[], []⟩).2, IsResponse x.json.write := by
  have hread : (Message.parse? (utf8 "\x7b\"method\":\"shutdown\"\x7d")).any
      (fun m => m.id.isNone && m.method == utf8 "shutdown") = true := by
    decide +kernel
  obtain ⟨m, hm, hcheck⟩ := (Option.any_eq_true _ _).mp hread
  simp only [Bool.and_eq_true, beq_iff_eq, Option.isNone_iff_eq_none] at hcheck
  have hk : m.kind = .shutdown := (kind_eq_iff (by simp [Kind.names]) m).mpr hcheck.2
  obtain ⟨hvisits, hc⟩ := visits_shutdown ⟨[], []⟩ (s := fresh [] [] .info true) rfl rfl
    (by decide) hm hk
  refine ⟨m, hcheck.1, ?_⟩
  intro v
  have hv : v ∈ visits ⟨[], []⟩ (fresh [] [] .info true)
      (frame (utf8 "\x7b\"method\":\"shutdown\"\x7d")) := by
    rw [hvisits]
    exact List.mem_singleton_self v
  refine ⟨hv, (notification_answered_iff _ _ _ hv hcheck.1).1.mpr ⟨?_, hc⟩⟩
  rw [mem_askingMethods]
  exact .inr (.inl hk)

/-- What is written then: a result for nobody. -/
theorem run_shutdown_without_id :
    ((Message.parse? (utf8 "\x7b\"method\":\"shutdown\"\x7d")).any fun m => m.id.isNone) = true ∧
    (run ⟨[], []⟩ (fresh [] [] .info true)
      (frame (utf8 "\x7b\"method\":\"shutdown\"\x7d"))).written =
        frame (utf8 "\x7b\"jsonrpc\":\"2.0\",\"result\":null\x7d") := by
  decide +kernel

end Server

end CallAssist
