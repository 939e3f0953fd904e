import CallAssist.Proofs.Json.Spacing
import CallAssist.Proofs.Server.Answers
import CallAssist.Proofs.Server.Frames
import Mathlib.Data.List.Forall2

/-! Messages written one after the other and read again: as many as were sent, in their order, and
each with the parts it was sent with. -/

namespace CallAssist

namespace Server

open Json

def Sent.message : Sent → Message
  | .result id v => ⟨utf8 "2.0", id, [], none, some v, none⟩
  | .error id code text => ⟨utf8 "2.0", id, [], none, none, some ⟨code, text⟩⟩
  | .notification method params => ⟨utf8 "2.0", none, method, some params, none, none⟩

/-- Messages with the same parts, values compared by what they stand for. -/
structure Message.Same (m r : Message) : Prop where
  version : m.version = r.version
  id : m.id.map respelled = r.id.map respelled
  method : m.method = r.method
  params : m.params.map respelled = r.params.map respelled
  result : m.result.map respelled = r.result.map respelled
  error : m.error = r.error

/-- The messages that are read from a stream until nothing is left of it. -/
inductive ReadsAll : Bytes → List Message → Prop where
  | nil : ReadsAll [] []
  | cons {t rest : Bytes} {m : Message} {ms : List Message} (h : readFrame t = .message m rest)
      (hs : ReadsAll rest ms) : ReadsAll t (m :: ms)

def Sent.Fits (m : Sent) : Prop := m.json.write.length ≤ maxLength

section Fields

variable (m : Message) (v : Json) (fs : List (Bytes × Json))

private theorem update_version : Message.update m (.object ((guarded (utf8 "jsonrpc"), v) :: fs)) =
    (Update.text m.version v).bind fun x => Message.update { m with version := x } (.object fs) :=
  Update.record_member "jsonrpc" Message.version (fun m x => { m with version := x }) .text
    (by decide +kernel) rfl m v fs

private theorem update_id (hv : v ≠ .null) :
    Message.update m (.object ((guarded (utf8 "id"), v) :: fs)) =
      Message.update { m with id := some v } (.object fs) := by
  have ho : Update.optional .null (fun _ v => some v) m.id v = some (some v) := by
    simp [Update.optional]
  refine (Update.record_member "id" Message.id (fun m x => { m with id := x })
    (.optional .null fun _ v => some v) ?_ rfl m v fs).trans ?_
  · decide +kernel
  · rw [ho]
    rfl

private theorem update_method : Message.update m (.object ((guarded (utf8 "method"), v) :: fs)) =
    (Update.text m.method v).bind fun x => Message.update { m with method := x } (.object fs) :=
  Update.record_member "method" Message.method (fun m x => { m with method := x }) .text
    (by decide +kernel) rfl m v fs

private theorem update_params : Message.update m (.object ((guarded (utf8 "params"), v) :: fs)) =
    Message.update { m with params := some v } (.object fs) :=
  Update.record_member "params" Message.params (fun m x => { m with params := x }) .verbatim
    (by decide +kernel) rfl m v fs

private theorem update_result : Message.update m (.object ((guarded (utf8 "result"), v) :: fs)) =
    Message.update { m with result := some v } (.object fs) :=
  Update.record_member "result" Message.result (fun m x => { m with result := x }) .verbatim
    (by decide +kernel) rfl m v fs

private theorem update_error : Message.update m (.object ((guarded (utf8 "error"), v) :: fs)) =
    (Update.optional ⟨0, []⟩ Message.updateFault m.error v).bind fun x =>
      Message.update { m with error := x } (.object fs) :=
  Update.record_member "error" Message.error (fun m x => { m with error := x })
    (.optional ⟨0, []⟩ Message.updateFault) (by decide +kernel) rfl m v fs

end Fields

private theorem text_guarded {t : Bytes} (h : Bytes.isUtf8 t = true) (held : Bytes) :
    Update.text held (guardedValue (.ofText t)) = some t := by
  change some (textOfBody (guarded (bodyOfText t))) = some t
  rw [(body_bodyOfText t).textOfBody_guarded, textOfBody_bodyOfText, scrub_of_isUtf8 h]

private theorem update_head {id : Option Json} (h : ReceivedId id) (fs : List (Bytes × Json)) :
    Message.update .empty (.object (guardedFields (Sent.head id ++ fs))) =
      Message.update ⟨utf8 "2.0", id.map guardedValue, [], none, none, none⟩
        (.object (guardedFields fs)) := by
  have hversion : Update.text [] (guardedValue (.ofText (utf8 "2.0"))) = some (utf8 "2.0") :=
    text_guarded (by decide +kernel) []
  cases id with
  | none =>
    change Message.update .empty (.object ((guarded (utf8 "jsonrpc"),
      guardedValue (.ofText (utf8 "2.0"))) :: guardedFields fs)) = _
    rw [update_version]
    change (Update.text [] _).bind _ = _
    rw [hversion]
    rfl
  | some v =>
    have hv : guardedValue v ≠ .null := by
      have := (h.proper rfl).1
      cases v with
      | null => contradiction
      | _ => simp [guardedValue]
    change Message.update .empty (.object ((guarded (utf8 "jsonrpc"),
      guardedValue (.ofText (utf8 "2.0"))) :: (guarded (utf8 "id"), guardedValue v) ::
        guardedFields fs)) = _
    rw [update_version]
    change (Update.text [] _).bind _ = _
    rw [hversion, Option.bind_some, update_id _ _ _ hv]
    rfl

private theorem updateFault_guarded {code : Int} {text : Bytes}
    (hc : -0x8000000000000000 ≤ code ∧ code < 0x8000000000000000)
    (ht : Bytes.isUtf8 text = true) : Message.updateFault ⟨0, []⟩ (guardedValue
      (.object [field "code" (.ofInt code), field "message" (.ofText text)])) =
        some ⟨code, text⟩ := by
  have hcode : Update.integer 0 (guardedValue (.ofInt code)) = some code := by
    change (Integer.decimal (Bytes.ofInt code)).toOption = some code
    rw [Integer.decimal_ofInt hc.1 hc.2]
    rfl
  refine (Update.record_member "code" Fault.code (fun e x => { e with code := x }) .integer
    ?_ rfl _ (guardedValue (.ofInt code)) _).trans ?_
  · decide +kernel
  · rw [hcode, Option.bind_some]
    refine (Update.record_member "message" Fault.message (fun e x => { e with message := x }) .text
      ?_ rfl _ (guardedValue (.ofText text)) _).trans ?_
    · decide +kernel
    · rw [text_guarded ht]
      rfl

def guardedParts (m : Message) : Message :=
  { m with
    id := m.id.map guardedValue
    params := m.params.map guardedValue
    result := m.result.map guardedValue }

private theorem head_proper {id : Option Json} (h : ReceivedId id) :
    ProperFields (maxDepth - 1) (Sent.head id) := by
  refine properFields_field rfl (proper_ofText _) ?_
  cases id with
  | none => trivial
  | some v => exact properFields_field rfl (h.proper rfl).2 trivial

private theorem json_proper {m : Sent} (h : m.Sendable) : Proper maxDepth m.json := by
  have hd : 0 < maxDepth := by decide
  cases m with
  | result id v =>
    exact ⟨hd, properFields_append (head_proper h.1) (properFields_field rfl h.2 trivial)⟩
  | error id code text =>
    refine ⟨hd, properFields_append (head_proper h.1) (properFields_field rfl ⟨by decide, ?_⟩ trivial)⟩
    exact properFields_field rfl (isNumber_ofInt code)
      (properFields_field rfl (proper_ofText text) trivial)
  | notification method params =>
    refine ⟨hd, ?_⟩
    exact properFields_append (head_proper fun _ hv => by cases hv)
      (properFields_field rfl (proper_ofText method) (properFields_field rfl h.2 trivial))

/-- A message is read from the text that is sent of it. -/
theorem parse?_json {m : Sent} (h : m.Sendable) :
    Message.parse? m.json.write = some (guardedParts m.message) := by
  rw [Message.parse?, parse_write (json_proper h), Option.bind_some]
  cases m with
  | result id v =>
    refine (update_head h.1 _).trans ?_
    exact update_result _ (guardedValue v) []
  | error id code text =>
    refine (update_head h.1 _).trans ((update_error _ _ []).trans ?_)
    have hfault := updateFault_guarded h.2.1 h.2.2
    change (Option.map some (Message.updateFault ⟨0, []⟩ _)).bind _ = _
    rw [hfault]
    rfl
  | notification method params =>
    have hnone : ReceivedId none := fun _ hv => by cases hv
    refine (update_head hnone _).trans ((update_method _ (guardedValue (.ofText method)) _).trans ?_)
    rw [text_guarded h.1, Option.bind_some]
    exact update_params _ (guardedValue params) []

private theorem same_guardedParts {m : Sent} (h : m.Sendable) :
    m.message.Same (guardedParts m.message) := by
  have same {o : Option Json} {d : Nat} (ho : ∀ v, o = some v → Proper d v) :
      o.map respelled = (o.map guardedValue).map respelled := by
    cases o with
    | none => rfl
    | some v => exact congrArg some (ho v rfl).respelled_guarded.symm
  cases m with
  | result id v =>
    exact ⟨rfl, same fun w hw => (h.1.proper hw).2, rfl, rfl,
      same fun w hw => Option.some.inj hw ▸ h.2, rfl⟩
  | error id code text =>
    exact ⟨rfl, same fun w hw => (h.1.proper hw).2, rfl, rfl, rfl, rfl⟩
  | notification method params =>
    exact ⟨rfl, rfl, rfl, same fun w hw => Option.some.inj hw ▸ h.2, rfl, rfl⟩

theorem readFrame_frame {body : Bytes} {m : Message} (hfit : body.length ≤ maxLength)
    (hm : Message.parse? body = some m) (rest : Bytes) :
    readFrame (frame body ++ rest) = .message m rest := by
  have h := (Frame.ofBody body hfit).readFrame_bytes rest
  have hm' : (Frame.ofBody body hfit).message? = some m := hm
  rwa [Frame.bytes_ofBody, hm'] at h

/-- What was written in any number of messages is read again, message by message, until nothing is
left. Each frame gives the length of its body, and all that a server answers may be sent. -/
theorem readsAll_written :
    (∀ ms : List Sent, (∀ m ∈ ms, m.Sendable ∧ m.Fits) →
      ∃ rs, ReadsAll (ms.flatMap Sent.write) rs ∧
        List.Forall₂ (fun m r => m.message.Same r) ms rs) ∧
    (∀ m : Sent, m.write =
      lengthHeader ++ Bytes.ofNat m.json.write.length ++ utf8 "\r\n\r\n" ++ m.json.write) ∧
    ∀ (fs : Files) (s : Server) (m : Message), m.Received →
      ∀ x, .message x ∈ (s.handle fs m).2 → x.Sendable := by
  refine ⟨fun ms h => ?_, fun m => rfl, fun fs s m hm x hx => hm.handle_sendable fs s hx⟩
  induction ms with
  | nil => exact ⟨[], .nil, .nil⟩
  | cons m ms ih =>
    obtain ⟨hm, hfit⟩ := h m List.mem_cons_self
    obtain ⟨rs, hread, hsame⟩ := ih fun x hx => h x (List.mem_cons_of_mem _ hx)
    refine ⟨guardedParts m.message :: rs, .cons ?_ hread, .cons (same_guardedParts hm) hsame⟩
    exact readFrame_frame hfit (parse?_json hm) _

/-- A request whose identifier is escaped on the way back, answered and then refused. -/
theorem readsAll_written_two : ∃ m : Message, m.Received ∧ m.id.isSome = true ∧
    let ms := [Sent.result m.id .null, .error m.id methodNotFound (utf8 "é")]
    .message (.result m.id .null) ∈ ((fresh [] [] .info true).handle ⟨[], []⟩ m).2 ∧
    (∀ x ∈ ms, x.Sendable ∧ x.Fits) ∧ ∃ rs, ReadsAll (ms.flatMap Sent.write) rs ∧ rs.length = 2 := by
  have hread : (Message.parse? (utf8 "\x7b\"id\":\"<\u2028\",\"method\":\"shutdown\"\x7d")).any
      (fun m => m.id.isSome && m.method == utf8 "shutdown" &&
        decide ((Sent.result m.id .null).json.write.length ≤ maxLength) &&
        decide ((Sent.error m.id methodNotFound (utf8 "é")).json.write.length ≤ maxLength)) =
      true := by
    decide +kernel
  obtain ⟨m, hm, hcheck⟩ := (Option.any_eq_true _ _).mp hread
  simp only [Bool.and_eq_true, decide_eq_true_eq, beq_iff_eq] at hcheck
  obtain ⟨⟨⟨hid, hmethod⟩, hfit⟩, hfit'⟩ := hcheck
  have hreceived : m.Received := ⟨_, [], readFrame_frame (by decide) hm []⟩
  have hanswer : .message (.result m.id .null) ∈ ((fresh [] [] .info true).handle ⟨[], []⟩ m).2 := by
    have hk : m.kind = .shutdown := by
      rw [Message.kind, hmethod]
      rfl
    rw [handle_snd, dispatch_eq, hk]
    simp [shutdown, answer]
  obtain ⟨hall, _, hsend⟩ := readsAll_written
  have hms : ∀ x ∈ [Sent.result m.id .null, .error m.id methodNotFound (utf8 "é")],
      x.Sendable ∧ x.Fits := by
    refine List.forall_mem_cons.mpr ⟨⟨hsend _ _ m hreceived _ hanswer, hfit⟩, ?_⟩
    refine List.forall_mem_singleton.mpr ⟨⟨fun _ _ => ⟨m, hreceived, rfl⟩, ?_, ?_⟩, hfit'⟩
    · decide
    · decide +kernel
  obtain ⟨rs, hrs, hsame⟩ := hall _ hms
  exact ⟨m, hreceived, hid, hanswer, hms, rs, hrs, hsame.length_eq.symm⟩

end Server

end CallAssist
