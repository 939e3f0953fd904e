import CallAssist.Proofs.Json.Strings
import CallAssist.Proofs.Json.Updates
import CallAssist.Proofs.Server.Dispatch
import CallAssist.Server.Frame

/-! What a server sends: identifiers that it was sent, values it has built, and texts that are
well-formed UTF-8. -/

namespace CallAssist

theorem Bytes.isUtf8_append {s t : Bytes} (hs : isUtf8 s = true) (ht : isUtf8 t = true) :
    isUtf8 (s ++ t) = true := by
  induction s using runes_induction with
  | nil => exact ht
  | point c s ih =>
    rw [isUtf8, runes_encode, List.all_cons, Bool.and_eq_true] at hs
    rw [isUtf8, List.append_assoc, runes_encode, List.all_cons, Bool.and_eq_true]
    exact ⟨rfl, ih hs.2⟩
  | stray a s hm ih =>
    rw [isUtf8, runes_malformed hm] at hs
    cases hs

namespace Server

open Json

section Built

variable {d : Nat}

private theorem textField_proper {key : String} (hk : (utf8 key).all isPlain = true) (t : Bytes) :
    ProperFields d (textField key t) := by
  unfold textField
  split
  · trivial
  · exact properFields_field hk (proper_ofText t) trivial

private theorem markdown_proper (t : Bytes) : Proper (d + 1) (markdown t) :=
  proper_object (properFields_field rfl (proper_ofText _)
    (properFields_field rfl (proper_ofText t) trivial))

private theorem positionJson_proper (p : Position) : Proper (d + 1) (positionJson p) :=
  proper_object (properFields_field rfl (proper_ofNat _)
    (properFields_field rfl (proper_ofNat _) trivial))

private theorem featureFields_proper (c : Catalog) : ProperFields (d + 2) (featureFields c) := by
  refine properFields_field rfl (proper_object ?_) (properFields_field rfl (proper_object ?_)
    (properFields_field rfl trivial trivial))
  · split
    · trivial
    · exact properFields_field rfl (proper_array_map proper_ofText) trivial
  · refine properFields_field rfl ⟨Nat.succ_pos d, ?_⟩ trivial
    exact ⟨proper_ofText _, proper_ofText _, trivial⟩

theorem initializeResult_proper (version : Bytes) (c : Option Catalog) :
    Proper (d + 4) (initializeResult version c) := by
  refine proper_object (properFields_field rfl (proper_object ?_)
    (properFields_field rfl (proper_object ?_) trivial))
  · refine properFields_field rfl (proper_object ?_) ?_
    · exact properFields_field rfl trivial (properFields_field rfl (proper_ofNat 1) trivial)
    · cases c with
      | none => trivial
      | some c => exact featureFields_proper c
  · exact properFields_field rfl (proper_ofText _) (textField_proper rfl version)

private theorem completionItem_proper (c : Completion) :
    Proper (d + 2) (completionItem c) := by
  refine proper_object (properFields_append (properFields_append (properFields_append ?_ ?_) ?_) ?_)
  · exact properFields_field rfl (proper_ofText _) (properFields_field rfl (proper_ofNat 3) trivial)
  · exact textField_proper rfl _
  · exact properFields_field rfl (markdown_proper _) trivial
  · exact textField_proper rfl _

theorem completionResult_proper (cs : List Completion) :
    Proper (d + 4) (completionResult cs) :=
  proper_object (properFields_field rfl trivial
    (properFields_field rfl (proper_array_map completionItem_proper) trivial))

private theorem signatureItem_proper (i : SignatureInfo) :
    Proper (d + 3) (signatureItem i) := by
  refine proper_object (properFields_append (properFields_append ?_ ?_) ?_)
  · exact properFields_field rfl (proper_ofText _) trivial
  · exact textField_proper rfl _
  · refine properFields_field rfl (proper_array_map fun p => ?_) trivial
    exact proper_object (properFields_field rfl (proper_ofText p) trivial)

theorem helpResult_proper (h : SignatureHelp) : Proper (d + 5) (helpResult h) :=
  proper_object (properFields_field rfl (proper_array_map signatureItem_proper)
    (properFields_field rfl (proper_ofNat _) (properFields_field rfl (proper_ofNat _) trivial)))

theorem hoverResult_proper (f : Function) (r : Range) : Proper (d + 3) (hoverResult f r) := by
  refine proper_object (properFields_field rfl (markdown_proper _)
    (properFields_field rfl (proper_object ?_) trivial))
  exact properFields_field rfl (positionJson_proper _)
    (properFields_field rfl (positionJson_proper _) trivial)

end Built

def Message.Received (m : Message) : Prop := ∃ t rest, readFrame t = .message m rest

def ReceivedId (id : Option Json) : Prop := ∀ v, id = some v → ∃ m : Message, m.Received ∧ m.id = id

/-- What can be relied on in a message that was read. -/
structure Message.WellRead (m : Message) : Prop where
  id : ∀ v, m.id = some v → v ≠ .null ∧ Proper (maxDepth - 1) v
  method : Bytes.isUtf8 m.method = true

private theorem text_isUtf8 {held t : Bytes} {v : Json} (hh : Bytes.isUtf8 held = true)
    (h : Update.text held v = some t) : Bytes.isUtf8 t = true := by
  unfold Update.text at h
  split at h
  · cases h
    exact hh
  · cases h
    exact isUtf8_textOfBody _
  · cases h

private theorem wellRead_of_update {m : Message} {v : Json} (hv : Proper maxDepth v)
    (h : Message.update .empty v = some m) : m.WellRead := by
  refine Update.record_invariant (d := maxDepth - 1) (P := Message.WellRead) ?_ hv h
    ⟨by simp [Message.empty], rfl⟩
  intro name u hu held v held' hv hs hp
  simp only [List.mem_cons, List.not_mem_nil, or_false, Update.member, Prod.mk.injEq] at hu
  rcases hu with ⟨rfl, rfl⟩ | ⟨rfl, rfl⟩ | ⟨rfl, rfl⟩ | ⟨rfl, rfl⟩ | ⟨rfl, rfl⟩ | ⟨rfl, rfl⟩
  · obtain ⟨_, _, rfl⟩ := Option.map_eq_some_iff.mp hs
    exact ⟨hp.id, hp.method⟩
  · obtain ⟨id, hid, rfl⟩ := Option.map_eq_some_iff.mp hs
    refine ⟨fun w hw => ?_, hp.method⟩
    obtain rfl : id = some w := hw
    by_cases hn : v = .null
    · subst hn
      cases hid
    · obtain rfl : v = w := by simpa [Update.optional, hn] using hid
      exact ⟨hn, hv⟩
  · obtain ⟨method, hm, rfl⟩ := Option.map_eq_some_iff.mp hs
    exact ⟨hp.id, text_isUtf8 hp.method hm⟩
  · obtain ⟨_, _, rfl⟩ := Option.map_eq_some_iff.mp hs
    exact ⟨hp.id, hp.method⟩
  · obtain ⟨_, _, rfl⟩ := Option.map_eq_some_iff.mp hs
    exact ⟨hp.id, hp.method⟩
  · obtain ⟨_, _, rfl⟩ := Option.map_eq_some_iff.mp hs
    exact ⟨hp.id, hp.method⟩

theorem Message.Received.exists_body {m : Message} (h : m.Received) :
    ∃ body, Message.parse? body = some m := by
  obtain ⟨t, rest, h⟩ := h
  unfold readFrame at h
  split at h
  · cases h
  · cases h
  · split_ifs at h
    split at h
    · cases h
    · next hm =>
      cases h
      exact ⟨_, hm⟩

theorem Message.Received.wellRead {m : Message} (h : m.Received) : m.WellRead := by
  obtain ⟨body, hb⟩ := h.exists_body
  obtain ⟨v, hv, hu⟩ := Option.bind_eq_some_iff.mp hb
  exact wellRead_of_update (proper_of_parse hv) hu

theorem ReceivedId.proper {id : Option Json} (h : ReceivedId id) {v : Json} (hv : id = some v) :
    v ≠ .null ∧ Proper (maxDepth - 1) v := by
  obtain ⟨m, hm, hid⟩ := h v hv
  exact hm.wellRead.id v (hid.trans hv)

/-- A message that may be sent. Codes are integers of 64 bits. -/
def Sent.Sendable : Sent → Prop
  | .result id v => ReceivedId id ∧ Proper (maxDepth - 1) v
  | .error id code message =>
    ReceivedId id ∧ (-0x8000000000000000 ≤ code ∧ code < 0x8000000000000000) ∧
      Bytes.isUtf8 message = true
  | .notification method params => Bytes.isUtf8 method = true ∧ Proper (maxDepth - 1) params

section Outputs

variable {s : Server} {m : Message}

private def AllSendable (os : List Output) : Prop := ∀ x, .message x ∈ os → x.Sendable

private theorem AllSendable.append {os os' : List Output} (h : AllSendable os)
    (h' : AllSendable os') : AllSendable (os ++ os') := by
  intro x hx
  rcases List.mem_append.mp hx with hx | hx
  · exact h x hx
  · exact h' x hx

private theorem allSendable_log (s : Server) (rs : List Record) : AllSendable (s.log rs) := by
  intro x hx
  obtain ⟨r, _, hr⟩ := List.mem_map.mp hx
  cases hr

private theorem allSendable_single {x : Sent} (h : x.Sendable) : AllSendable [.message x] := by
  intro y hy
  obtain ⟨rfl⟩ := List.mem_singleton.mp hy
  exact h

private theorem allSendable_answer {v : Json} (hm : m.Received) {d : Nat} (hv : Proper d v)
    (hd : d ≤ maxDepth - 1) : AllSendable [answer m v] :=
  allSendable_single ⟨fun _ _ => ⟨m, hm, rfl⟩, hv.mono hd⟩

private theorem allSendable_error (hm : m.Received) {code : Int} {t : Bytes}
    (hc : -0x8000000000000000 ≤ code ∧ code < 0x8000000000000000) (ht : Bytes.isUtf8 t = true) :
    AllSendable [.message (.error m.id code t)] :=
  allSendable_single ⟨fun _ _ => ⟨m, hm, rfl⟩, hc, ht⟩

private theorem rejectRequest_sendable (hm : m.Received) : AllSendable (s.rejectRequest m).2 :=
  (allSendable_error hm (by decide) (by decide +kernel)).append (allSendable_log s _)

private theorem offerNothing_sendable (hm : m.Received) (path reason : Bytes) :
    AllSendable (s.offerNothing m path reason).2 :=
  (allSendable_log s _).append
    (allSendable_answer hm (initializeResult_proper (d := 0) _ _) (by decide))

private theorem startSession_sendable (hm : m.Received) (fs : Files) (path : Bytes) :
    AllSendable (s.startSession fs m path).2 := by
  unfold startSession
  split
  · exact offerNothing_sendable hm _ _
  · split
    · exact (allSendable_log s _).append
        (allSendable_answer hm (initializeResult_proper (d := 0) _ _) (by decide))
    · split
      · exact fun x hx => by cases hx
      · exact offerNothing_sendable hm _ _

private theorem applyLevel_sendable (s : Server) (p : Option Settings.Project) :
    AllSendable (s.applyLevel p).2 := by
  unfold applyLevel
  split
  · exact fun x hx => by cases hx
  · exact allSendable_log s _
  · exact fun x hx => by cases hx
  · split
    · exact allSendable_log _ _
    · exact allSendable_log s _

private theorem enterWorkspace_sendable (hm : m.Received) (fs : Files) (wanted : Option Bytes)
    (project : Option Settings.Project) :
    AllSendable (s.enterWorkspace fs m wanted project).2 :=
  ((applyLevel_sendable s project).append (allSendable_log _ _)).append
    (startSession_sendable hm fs _)

private theorem openWorkspace_sendable (hm : m.Received) (fs : Files) (p : InitializeParams) :
    AllSendable (s.openWorkspace fs m p).2 := by
  unfold openWorkspace
  simp only
  split
  · exact (allSendable_log _ _).append (enterWorkspace_sendable hm fs _ _)
  · split
    · exact allSendable_log _ _
    · exact ((allSendable_log _ _).append (allSendable_log _ _)).append
        (enterWorkspace_sendable hm fs _ _)

private theorem noCatalogNotice_sendable : noCatalogNotice.Sendable := by
  refine ⟨by decide +kernel, Proper.mono (d := 1) ?_ (by decide)⟩
  exact proper_object (properFields_field rfl (proper_ofNat 1)
    (properFields_field rfl (proper_ofText _) trivial))

private theorem dispatch_sendable (hm : m.Received) (fs : Files) :
    AllSendable (s.dispatch fs m).2 := by
  rw [dispatch_eq]
  cases m.kind with
  | enter =>
    cases readInitialize m.params with
    | none => exact rejectRequest_sendable hm
    | some p => exact openWorkspace_sendable hm fs p
  | confirm =>
    refine (allSendable_log s _).append ?_
    split
    · exact allSendable_single noCatalogNotice_sendable
    · exact fun x hx => by cases hx
  | shutdown =>
    refine ((allSendable_log _ _).append ?_).append (allSendable_log _ _)
    exact allSendable_answer (d := 0) hm trivial (Nat.zero_le _)
  | exit => exact allSendable_log _ _
  | didOpen =>
    cases readOpen m.params with
    | none => exact allSendable_log s _
    | some d => exact allSendable_log s _
  | didClose =>
    cases readClose m.params with
    | none => exact allSendable_log s _
    | some uri => exact allSendable_log s _
  | didChange =>
    cases readChange m.params with
    | none => exact allSendable_log s _
    | some p =>
      simp only [changeDocument]
      split
      · exact fun x hx => by cases hx
      · exact fun x hx => by cases hx
  | completion =>
    cases readPlace m.params with
    | none => exact rejectRequest_sendable hm
    | some p =>
      exact (allSendable_log s _).append
        (allSendable_answer hm (completionResult_proper (d := 0) _) (by decide))
  | signatureHelp =>
    cases readHelp m.params with
    | none => exact rejectRequest_sendable hm
    | some p =>
      refine (allSendable_log s _).append (allSendable_answer (d := 5) hm ?_ (by decide))
      cases (s.signatureHelp p).1 with
      | none => trivial
      | some h => exact helpResult_proper (d := 0) h
  | hover =>
    cases readPlace m.params with
    | none => exact rejectRequest_sendable hm
    | some p =>
      refine allSendable_answer (d := 3) hm ?_ (by decide)
      cases s.hover p with
      | none => trivial
      | some f => exact hoverResult_proper (d := 0) f.1 f.2
  | other =>
    simp only
    split
    · exact allSendable_error hm (by decide)
        (Bytes.isUtf8_append (by decide +kernel) hm.wellRead.method)
    · exact fun x hx => by cases hx

/-- Whatever a server sends in answer to a message it has read may be sent. -/
theorem Message.Received.handle_sendable (hm : m.Received) (fs : Files) (s : Server) {x : Sent}
    (hx : .message x ∈ (s.handle fs m).2) : x.Sendable := by
  rw [handle_snd] at hx
  exact (allSendable_log s _).append (dispatch_sendable hm fs) x hx

end Outputs

end Server

end CallAssist
