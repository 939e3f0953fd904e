import CallAssist.Proofs.Json.Shapes
import CallAssist.Proofs.Server.History

/-!
Messages whose parameters cannot be read. Such a message leaves the server as it was, even where
some of its fields could be read; one that asks for something is answered with an error, and one
about a document with nothing.
-/

namespace CallAssist

namespace Server

open Json (Shape Update)

section Shapes

def initializeShape : Shape := .ofFields [("processId", .integer), ("rootUri", .text),
  ("initializationOptions", .ofFields [("catalogPath", .text)])]

def uriShape : Shape := .ofFields [("uri", .text)]

def openShape : Shape := .ofFields [("textDocument", .ofFields [("uri", .text),
  ("languageId", .text), ("version", .integer), ("text", .text)])]

def closeShape : Shape := .ofFields [("textDocument", uriShape)]

def positionShape : Shape := .ofFields [("line", .word), ("character", .word)]

def rangeShape : Shape := .ofFields [("start", positionShape), ("end", positionShape)]

def changeShape : Shape := .ofFields [
  ("textDocument", .ofFields [("uri", .text), ("version", .integer)]),
  ("contentChanges", .list (.ofFields [("range", rangeShape), ("rangeLength", .word),
    ("text", .text)]))]

def placeShape : Shape := .ofFields [("textDocument", uriShape), ("position", positionShape)]

def helpShape : Shape := .ofFields [("textDocument", uriShape), ("position", positionShape),
  ("context", .ofFields [("triggerKind", .integer), ("triggerCharacter", .text),
    ("isRetrigger", .flag)])]

end Shapes

def requestShapes : List (Bytes × Shape) := [
  (utf8 "initialize", initializeShape), (utf8 "textDocument/completion", placeShape),
  (utf8 "textDocument/signatureHelp", helpShape), (utf8 "textDocument/hover", placeShape)]

def documentShapes : List (Bytes × Shape) := [
  (utf8 "textDocument/didOpen", openShape), (utf8 "textDocument/didClose", closeShape),
  (utf8 "textDocument/didChange", changeShape)]

def Message.Unreadable (shapes : List (Bytes × Shape)) (m : Message) : Prop :=
  ∃ shape, (m.method, shape) ∈ shapes ∧ ∀ v ∈ m.params, shape.fits v = false

section Readers

open Json.Update

private theorem takes_initialize : InitializeParams.update.Takes initializeShape := by
  have hoptions : (Update.record [Update.member "catalogPath" (fun t => t) (fun _ t => t)
      .text]).Takes (.ofFields [("catalogPath", .text)]) :=
    TakesAll.record (.member takes_text .nil)
  exact TakesAll.record (.member takes_integer (.member takes_text
    (.member (hoptions.optional []) .nil)))

private theorem takes_uri : updateUri.Takes uriShape := TakesAll.record (.member takes_text .nil)

private theorem takes_documentItem : DocumentItem.update.Takes
    (.ofFields [("uri", .text), ("languageId", .text), ("version", .integer), ("text", .text)]) :=
  TakesAll.record (.member takes_text (.member takes_text (.member takes_integer
    (.member takes_text .nil))))

private theorem takes_open : (Update.record [Update.member "textDocument" (fun d => d)
    (fun _ d => d) DocumentItem.update]).Takes openShape :=
  TakesAll.record (.member takes_documentItem .nil)

private theorem takes_close : (Update.record [Update.member "textDocument" (fun d => d)
    (fun _ d => d) updateUri]).Takes closeShape := TakesAll.record (.member takes_uri .nil)

private theorem takes_versionedUri :
    VersionedUri.update.Takes (.ofFields [("uri", .text), ("version", .integer)]) :=
  TakesAll.record (.member takes_text (.member takes_integer .nil))

private theorem takes_position : updatePosition.Takes positionShape :=
  TakesAll.record (.member takes_word (.member takes_word .nil))

private theorem takes_range : updateRange.Takes rangeShape :=
  TakesAll.record (.member takes_position (.member takes_position .nil))

private theorem takes_change : Change.update.Takes
    (.ofFields [("range", rangeShape), ("rangeLength", .word), ("text", .text)]) :=
  TakesAll.record (.member (takes_range.optional _) (.member takes_word (.member takes_text .nil)))

private theorem takes_changes : ChangeParams.update.Takes changeShape :=
  TakesAll.record (.member takes_versionedUri (.member (takes_change.cells _) .nil))

private theorem takes_place : PlaceParams.update.Takes placeShape :=
  TakesAll.record (.member takes_uri (.member takes_position .nil))

private theorem takes_context : HelpContext.update.Takes (.ofFields [("triggerKind", .integer),
    ("triggerCharacter", .text), ("isRetrigger", .flag)]) :=
  TakesAll.record (.member takes_integer (.member takes_text (.member takes_flag .nil)))

private theorem takes_help : PlaceParams.updateWithContext.Takes helpShape :=
  TakesAll.record (.member takes_uri (.member takes_position
    (.member (takes_context.optional _) .nil)))

private theorem readParams_eq_none {α : Type} {u : Update α} {shape : Shape} (hu : u.Takes shape)
    (fresh : α) {params : Option Json} (h : ∀ v ∈ params, shape.fits v = false) :
    readParams fresh u params = none := by
  cases params with
  | none => rfl
  | some v =>
    have hread := hu fresh v
    rw [h v rfl] at hread
    exact Option.isNone_iff_eq_none.mp (Option.isSome_eq_false_iff.mp hread)

end Readers

variable {m : Message}

private theorem Message.Unreadable.dispatch_request (h : m.Unreadable requestShapes) (fs : Files)
    (s : Server) : s.dispatch fs m = s.rejectRequest m := by
  obtain ⟨shape, hmem, hv⟩ := h
  simp only [requestShapes, List.mem_cons, Prod.mk.injEq, List.not_mem_nil, or_false] at hmem
  rw [dispatch_eq]
  rcases hmem with ⟨hm, rfl⟩ | ⟨hm, rfl⟩ | ⟨hm, rfl⟩ | ⟨hm, rfl⟩
  · rw [(kind_eq_iff (k := .enter) (by simp [Kind.names]) m).mpr hm]
    simp only [readInitialize, readParams_eq_none takes_initialize _ hv]
  · rw [(kind_eq_iff (k := .completion) (by simp [Kind.names]) m).mpr hm]
    simp only [readPlace, readParams_eq_none takes_place _ hv]
  · rw [(kind_eq_iff (k := .signatureHelp) (by simp [Kind.names]) m).mpr hm]
    simp only [readHelp, readParams_eq_none takes_help _ hv]
  · rw [(kind_eq_iff (k := .hover) (by simp [Kind.names]) m).mpr hm]
    simp only [readPlace, readParams_eq_none takes_place _ hv]

private theorem Message.Unreadable.dispatch_document (h : m.Unreadable documentShapes) (fs : Files)
    (s : Server) : s.dispatch fs m = s.rejectNotification m := by
  obtain ⟨shape, hmem, hv⟩ := h
  simp only [documentShapes, List.mem_cons, Prod.mk.injEq, List.not_mem_nil, or_false] at hmem
  rw [dispatch_eq]
  rcases hmem with ⟨hm, rfl⟩ | ⟨hm, rfl⟩ | ⟨hm, rfl⟩
  · rw [(kind_eq_iff (k := .didOpen) (by simp [Kind.names]) m).mpr hm]
    simp only [readOpen, readParams_eq_none takes_open _ hv]
  · rw [(kind_eq_iff (k := .didClose) (by simp [Kind.names]) m).mpr hm]
    simp only [readClose, readParams_eq_none takes_close _ hv]
  · rw [(kind_eq_iff (k := .didChange) (by simp [Kind.names]) m).mpr hm]
    simp only [readChange, readParams_eq_none takes_changes _ hv]

/-- A message whose parameters are missing or not of the shape of its method, be it in one field
only, changes nothing in the server. If the method asks for something, one error is written and
nothing else; if it is about a document, nothing is written. -/
theorem handle_unreadable (fs : Files) (s : Server) (m : Message) :
    (m.Unreadable requestShapes → (s.handle fs m).1 = s ∧
      ∃ text, sent (s.handle fs m).2 = [.error m.id (-32602) text] ∧
        written (s.handle fs m).2 = frame (Sent.error m.id (-32602) text).json.write) ∧
    (m.Unreadable documentShapes → (s.handle fs m).1 = s ∧ sent (s.handle fs m).2 = [] ∧
      written (s.handle fs m).2 = []) := by
  constructor
  · intro h
    have hsent : sent (s.handle fs m).2 = [.error m.id (-32602) decoderFault] := by
      rw [handle_snd, h.dispatch_request]
      simp [rejectRequest, invalidParams]
    refine ⟨?_, decoderFault, hsent, ?_⟩
    · rw [handle_fst, h.dispatch_request, rejectRequest]
    · rw [written_eq_frames, hsent, List.flatMap_singleton]
  · intro h
    have hsent : sent (s.handle fs m).2 = [] := by
      rw [handle_snd, h.dispatch_document]
      simp [rejectNotification]
    refine ⟨?_, hsent, ?_⟩
    · rw [handle_fst, h.dispatch_document, rejectNotification]
    · rw [written_eq_frames, hsent, List.flatMap_nil]

/-- A root that could be read, behind a process that could not: a server with a session and an open
document keeps its own root. -/
theorem handle_unreadable_process :
    let s : Server := { fresh (utf8 "/c.json") (utf8 "1.0") .info true with
      documents := Documents.empty.open (utf8 "file:///a.nvgt") (utf8 "beep(") 1
      session := some (.ofCatalog .empty), projectRoot := utf8 "/home" }
    let m : Message := { Message.empty with
      id := some (.ofNat 7), method := utf8 "initialize"
      params := some (.object [Json.field "rootUri" (.ofText (utf8 "file:///other")),
        Json.field "processId" (.ofText (utf8 "7"))]) }
    m.Unreadable requestShapes ∧ (s.handle ⟨[], []⟩ m).1 = s ∧
      ∃ text, sent (s.handle ⟨[], []⟩ m).2 = [.error (some (.ofNat 7)) (-32602) text] := by
  intro s m
  have hm : m.Unreadable requestShapes := by
    refine ⟨initializeShape, List.mem_cons_self, ?_⟩
    intro v hv
    cases hv
    decide +kernel
  obtain ⟨hstate, text, hsent, -⟩ := (handle_unreadable ⟨[], []⟩ s m).1 hm
  exact ⟨hm, hstate, text, hsent⟩

end Server

end CallAssist
