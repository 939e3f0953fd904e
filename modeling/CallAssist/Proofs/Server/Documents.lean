import CallAssist.Proofs.Server.Frames
import Mathlib.Data.List.Induction

/-! The open documents follow the messages about them. What a server holds for an address is told by
the history alone: whether it was opened and not closed since, and what it was last set to. -/

namespace CallAssist

namespace Documents

variable (ds : Documents) (uri content : Bytes) (version : Int) (u : Bytes)

@[simp] theorem get?_empty : empty.get? u = none := rfl

@[simp] theorem get?_close : (ds.close uri).get? u = if uri = u then none else ds.get? u := by
  unfold get? close
  induction ds.entries with
  | nil => simp
  | cons e es ih =>
    rw [List.filter_cons, List.lookup_cons]
    by_cases hu : u = e.1
    · subst hu
      by_cases he : uri = e.1
      · simp only [he, bne_self_eq_false, Bool.false_eq_true, if_false, if_true] at ih ⊢
        exact ih
      · rw [if_pos (by simpa using Ne.symm he), List.lookup_cons_self, if_neg he, beq_self_eq_true]
    · have hne : (u == e.1) = false := by simpa using hu
      rw [hne, ← ih]
      split
      · rw [List.lookup_cons, hne]
      · rfl

@[simp] theorem get?_open : (ds.open uri content version).get? u =
    if uri = u then some (.make uri content version) else ds.get? u := by
  have hc := get?_close ds uri u
  unfold get? at hc ⊢
  unfold «open»
  rw [List.lookup_cons, hc]
  by_cases hu : uri = u
  · simp [hu]
  · have hne : (u == uri) = false := by simpa using Ne.symm hu
    simp [hne, hu]

@[simp] theorem get?_update : (ds.update uri content version).get? u =
    if uri = u then (ds.get? u).map fun _ => .make uri content version else ds.get? u := by
  unfold update
  by_cases hu : uri = u
  · subst hu
    cases hd : ds.get? uri with
    | none => simp [hd]
    | some d => simp
  · rw [if_neg hu]
    split
    · rw [get?_open, if_neg hu]
    · rfl

end Documents

namespace Server

/-- What a message says about the open documents. -/
inductive DocumentEvent where
  | opened (uri content : Bytes) (version : Int)
  | changed (uri : Bytes) (changes : List Change) (version : Int)
  | closed (uri : Bytes)

def Message.documentEvent? (m : Message) : Option DocumentEvent :=
  match m.kind with
  | .didOpen => (readOpen m.params).map fun d => .opened d.uri d.text d.version
  | .didChange => (readChange m.params).map fun p =>
    .changed p.document.uri p.changes.toList p.document.version
  | .didClose => (readClose m.params).map .closed
  | _ => none

namespace DocumentEvent

def uri : DocumentEvent → Bytes
  | opened uri _ _ => uri
  | changed uri _ _ => uri
  | closed uri => uri

def apply (ds : Documents) : DocumentEvent → Documents
  | opened uri content version => ds.open uri content version
  | changed uri changes version => match changes.getLast? with
    | none => ds
    | some c => ds.update uri c.text version
  | closed uri => ds.close uri

def effect (u : Bytes) (held : Option Document) : DocumentEvent → Option Document
  | opened uri content version => if uri = u then some (.make uri content version) else held
  | changed uri changes version =>
    if uri = u then match changes.getLast? with
      | none => held
      | some c => held.map fun _ => .make uri c.text version
    else held
  | closed uri => if uri = u then none else held

theorem get?_apply (ds : Documents) (e : DocumentEvent) (u : Bytes) :
    (e.apply ds).get? u = e.effect u (ds.get? u) := by
  cases e with
  | opened uri content version => exact Documents.get?_open ds uri content version u
  | changed uri changes version =>
    simp only [apply, effect]
    cases changes.getLast? with
    | none => exact (ite_self _).symm
    | some c => exact Documents.get?_update ds uri c.text version u
  | closed uri => exact Documents.get?_close ds uri u

theorem get?_foldl_apply (ds : Documents) (es : List DocumentEvent) (u : Bytes) :
    (es.foldl apply ds).get? u = es.foldl (effect u) (ds.get? u) := by
  induction es generalizing ds with
  | nil => rfl
  | cons e es ih => rw [List.foldl_cons, List.foldl_cons, ih, get?_apply]

/-- An event leaves the documents at other addresses alone. -/
theorem effect_of_ne {e : DocumentEvent} {u : Bytes} (h : e.uri ≠ u) (held : Option Document) :
    e.effect u held = held := by
  cases e with
  | opened uri content version => exact if_neg h
  | changed uri changes version => exact if_neg h
  | closed uri => exact if_neg h

/-- Events about different documents may come in either order. -/
theorem effect_comm {e e' : DocumentEvent} (h : e.uri ≠ e'.uri) (u : Bytes)
    (held : Option Document) : e'.effect u (e.effect u held) = e.effect u (e'.effect u held) := by
  by_cases hu : e.uri = u
  · have hu' : e'.uri ≠ u := fun h' => h (hu.trans h'.symm)
    rw [effect_of_ne hu', effect_of_ne hu']
  · rw [effect_of_ne hu, effect_of_ne hu]

end DocumentEvent

section History

/-- Some event of one kind has no event of another kind after it. An event is told by what came
before it, too. -/
def Since (P Q : List DocumentEvent → DocumentEvent → Prop) (es : List DocumentEvent) : Prop :=
  ∃ before e after, es = before ++ e :: after ∧ P before e ∧
    ∀ mid e' rest, after = mid ++ e' :: rest → ¬ Q (before ++ e :: mid) e'

def IsOpen (u : Bytes) : List DocumentEvent → Prop :=
  Since (fun _ e => ∃ content version, e = .opened u content version) (fun _ e => e = .closed u)

/-- The content and version that an event sets for a document: an opening those it brings, and a
change that comes while the document is open those of the last of its changes. -/
inductive Sets (u : Bytes) (before : List DocumentEvent) : DocumentEvent → Bytes → Int → Prop where
  | opened (content : Bytes) (version : Int) :
    Sets u before (.opened u content version) content version
  | changed (changes : List Change) (c : Change) (version : Int)
      (hlast : changes.getLast? = some c) (hopen : IsOpen u before) :
    Sets u before (.changed u changes version) c.text version

def LastSet (u content : Bytes) (version : Int) : List DocumentEvent → Prop :=
  Since (fun before e => Sets u before e content version)
    (fun before e => ∃ content version, Sets u before e content version)

variable {P Q : List DocumentEvent → DocumentEvent → Prop} {es : List DocumentEvent}
  {e : DocumentEvent} {u content : Bytes} {version : Int}

theorem not_since_nil : ¬ Since P Q [] := by
  rintro ⟨before, e, after, h, _⟩
  simp at h

private theorem concat_split {before after : List DocumentEvent} {e₁ e₂ : DocumentEvent}
    (h : es ++ [e] = before ++ e₁ :: (after ++ [e₂])) : es = before ++ e₁ :: after ∧ e = e₂ := by
  have h' : es ++ [e] = (before ++ e₁ :: after) ++ [e₂] := by rw [h]; simp
  obtain ⟨hs, he⟩ := List.append_inj' h' rfl
  exact ⟨hs, List.singleton_inj.mp he⟩

/-- What holds after one more event. -/
theorem since_concat : Since P Q (es ++ [e]) ↔ P es e ∨ ¬ Q es e ∧ Since P Q es := by
  constructor
  · rintro ⟨before, e₁, after, hs, hp, hq⟩
    rcases List.eq_nil_or_concat' after with rfl | ⟨after, e₂, rfl⟩
    · obtain ⟨rfl, rfl⟩ := by simpa using hs
      exact .inl hp
    · obtain ⟨rfl, rfl⟩ := concat_split hs
      refine .inr ⟨hq after e [] (by simp), before, e₁, after, rfl, hp, ?_⟩
      rintro mid e' rest rfl
      exact hq mid e' (rest ++ [e]) (by simp)
  · rintro (hp | ⟨hn, before, e₁, after, rfl, hp, hq⟩)
    · exact ⟨es, e, [], rfl, hp, by simp⟩
    · refine ⟨before, e₁, after ++ [e], by simp, hp, ?_⟩
      intro mid e' rest hs
      rcases List.eq_nil_or_concat' rest with rfl | ⟨rest, e₂, rfl⟩
      · obtain ⟨rfl, rfl⟩ := by simpa using hs
        exact hn
      · obtain ⟨rfl, rfl⟩ := concat_split hs
        exact hq mid e' rest rfl

theorem since_concat_of_not (hp : ¬ P es e) (hq : ¬ Q es e) :
    Since P Q (es ++ [e]) ↔ Since P Q es := by
  rw [since_concat]
  exact ⟨fun h => (h.resolve_left hp).2, fun h => .inr ⟨hq, h⟩⟩

theorem isOpen_concat : IsOpen u (es ++ [e]) ↔
    (∃ content version, e = .opened u content version) ∨ ¬ e = .closed u ∧ IsOpen u es :=
  since_concat

theorem lastSet_concat : LastSet u content version (es ++ [e]) ↔
    Sets u es e content version ∨
      ¬ (∃ content version, Sets u es e content version) ∧ LastSet u content version es :=
  since_concat

theorem Sets.uri_eq (h : Sets u es e content version) : e.uri = u := by
  cases h with
  | opened => rfl
  | changed => rfl

/-- An event about another document does not open, close or set this one. -/
theorem isOpen_concat_of_ne (h : e.uri ≠ u) : IsOpen u (es ++ [e]) ↔ IsOpen u es := by
  refine since_concat_of_not ?_ ?_
  · rintro ⟨content, version, rfl⟩
    exact h rfl
  · rintro rfl
    exact h rfl

theorem lastSet_concat_of_ne (h : e.uri ≠ u) :
    LastSet u content version (es ++ [e]) ↔ LastSet u content version es := by
  refine since_concat_of_not ?_ ?_
  · exact fun hs => h hs.uri_eq
  · rintro ⟨content, version, hs⟩
    exact h hs.uri_eq

open DocumentEvent (effect effect_of_ne)

/-- A document is held while it is open. -/
theorem foldl_effect_isSome (u : Bytes) (es : List DocumentEvent) :
    (es.foldl (effect u) none).isSome = true ↔ IsOpen u es := by
  induction es using List.reverseRecOn with
  | nil =>
    constructor
    · intro h
      cases h
    · exact fun h => absurd h not_since_nil
  | append_singleton es e ih =>
    rw [List.foldl_append, List.foldl_cons, List.foldl_nil]
    by_cases hu : e.uri = u
    · rw [isOpen_concat]
      cases e with
      | opened uri content version =>
        obtain rfl : uri = u := hu
        simp [effect]
      | changed uri changes version =>
        obtain rfl : uri = u := hu
        cases hc : changes.getLast? with
        | none => simpa [effect, hc] using ih
        | some c => simpa [effect, hc] using ih
      | closed uri =>
        obtain rfl : uri = u := hu
        simp [effect]
    · rw [effect_of_ne hu, isOpen_concat_of_ne hu]
      exact ih

/-- What is held was set last, and its line table is that of its content. -/
theorem foldl_effect_eq_some {u : Bytes} {es : List DocumentEvent} {d : Document}
    (h : es.foldl (effect u) none = some d) :
    LastSet u d.content d.version es ∧ d.uri = u ∧ d.lines = lineStarts d.content := by
  induction es using List.reverseRecOn with
  | nil => cases h
  | append_singleton es e ih =>
    rw [List.foldl_append, List.foldl_cons, List.foldl_nil] at h
    by_cases hu : e.uri = u
    · cases e with
      | opened uri content version =>
        obtain rfl : uri = u := hu
        obtain rfl : Document.make uri content version = d := by simpa [effect] using h
        exact ⟨lastSet_concat.mpr (.inl (.opened content version)), rfl, rfl⟩
      | changed uri changes version =>
        obtain rfl : uri = u := hu
        cases hc : changes.getLast? with
        | none =>
          obtain ⟨hl, hd⟩ := ih (by simpa [effect, hc] using h)
          refine ⟨lastSet_concat.mpr (.inr ⟨?_, hl⟩), hd⟩
          rintro ⟨content, version, hs⟩
          cases hs with
          | changed _ c _ hlast => rw [hc] at hlast; cases hlast
        | some c =>
          obtain ⟨held, hheld, rfl⟩ : ∃ held, es.foldl (effect uri) none = some held ∧
              Document.make uri c.text version = d := by simpa [effect, hc] using h
          have hopen : IsOpen uri es := (foldl_effect_isSome uri es).mp (by rw [hheld]; rfl)
          exact ⟨lastSet_concat.mpr (.inl (.changed changes c version hc hopen)), rfl, rfl⟩
      | closed uri =>
        obtain rfl : uri = u := hu
        simp [effect] at h
    · rw [effect_of_ne hu] at h
      obtain ⟨hl, hd⟩ := ih h
      exact ⟨(lastSet_concat_of_ne hu).mpr hl, hd⟩

end History

section Messages

variable (fs : Files) {s : Server} {m : Message} {ms : List Message}

/-- A message about a document does to the documents what its event says, and nothing else that
would keep the server from going on. -/
theorem handle_documentEvent {e : DocumentEvent} (h : m.documentEvent? = some e) :
    (s.handle fs m).1.documents = e.apply s.documents ∧ (s.handle fs m).1.broken = s.broken := by
  rw [handle_fst, dispatch_eq]
  unfold Message.documentEvent? at h
  cases hk : m.kind with
  | didOpen =>
    rw [hk] at h
    obtain ⟨d, hd, rfl⟩ := Option.map_eq_some_iff.mp h
    simp only [hd]
    exact ⟨rfl, rfl⟩
  | didClose =>
    rw [hk] at h
    obtain ⟨uri, hu, rfl⟩ := Option.map_eq_some_iff.mp h
    simp only [hu]
    exact ⟨rfl, rfl⟩
  | didChange =>
    rw [hk] at h
    obtain ⟨p, hp, rfl⟩ := Option.map_eq_some_iff.mp h
    simp only [hp, changeDocument, DocumentEvent.apply]
    cases p.changes.toList.getLast? with
    | none => exact ⟨rfl, rfl⟩
    | some c => exact ⟨rfl, rfl⟩
  | _ => rw [hk] at h; cases h

/-- Messages about documents are handled event by event. -/
theorem documents_handleAll (hb : s.broken = false)
    (h : ∀ m ∈ ms, m.documentEvent?.isSome = true) :
    (handleAll fs s ms).1.documents =
      (ms.filterMap Message.documentEvent?).foldl DocumentEvent.apply s.documents := by
  induction ms generalizing s with
  | nil => rfl
  | cons m ms ih =>
    obtain ⟨hm, hms⟩ := List.forall_mem_cons.mp h
    obtain ⟨e, he⟩ := Option.isSome_iff_exists.mp hm
    obtain ⟨hd, hgoes⟩ := handle_documentEvent fs (s := s) he
    rw [handleAll_cons hb, ih (hgoes.trans hb) hms, List.filterMap_cons_some he, List.foldl_cons,
      hd]

/-- After any messages about documents, a document is held exactly if it was opened and not closed
since. Its content and version are those it was set to last, by an opening or by a change that came
while it was open and had something to change it to; and its line table is that of its content. Two
neighbouring messages about different documents may be exchanged. -/
theorem documents_follow_messages (hs : s.documents = .empty) (hb : s.broken = false)
    (h : ∀ m ∈ ms, m.documentEvent?.isSome = true) :
    let es := ms.filterMap Message.documentEvent?
    let held := (handleAll fs s ms).1.documents
    (∀ u, (held.get? u).isSome = true ↔ IsOpen u es) ∧
    (∀ u d, held.get? u = some d →
      LastSet u d.content d.version es ∧ d.uri = u ∧ d.lines = lineStarts d.content) ∧
    ∀ before m m' after e e', ms = before ++ m :: m' :: after →
      m.documentEvent? = some e → m'.documentEvent? = some e' → e.uri ≠ e'.uri →
      ∀ u, (handleAll fs s (before ++ m' :: m :: after)).1.documents.get? u = held.get? u := by
  intro es held
  have hheld (u : Bytes) : held.get? u = es.foldl (DocumentEvent.effect u) none := by
    rw [show held = es.foldl DocumentEvent.apply s.documents from documents_handleAll fs hb h, hs,
      DocumentEvent.get?_foldl_apply, Documents.get?_empty]
  refine ⟨?_, ?_, ?_⟩
  · intro u
    rw [hheld]
    exact foldl_effect_isSome u es
  · intro u d hd
    rw [hheld] at hd
    exact foldl_effect_eq_some hd
  · rintro before m m' after e e' rfl he he' hne u
    have hswapped : ∀ k ∈ before ++ m' :: m :: after, k.documentEvent?.isSome = true := by
      intro k hk
      apply h k
      simp only [List.mem_append, List.mem_cons] at hk ⊢
      tauto
    rw [documents_handleAll fs hb hswapped, hs, DocumentEvent.get?_foldl_apply,
      Documents.get?_empty, hheld]
    simp only [es, List.filterMap_append, List.filterMap_cons_some he,
      List.filterMap_cons_some he', List.foldl_append, List.foldl_cons]
    rw [DocumentEvent.effect_comm hne]

/-- A document that is changed twice by one message, and one that is changed after it was closed. -/
theorem documents_follow_messages_five :
    let a := Json.field "uri" (.ofText (utf8 "a"))
    let b := Json.field "uri" (.ofText (utf8 "b"))
    let version (n : Nat) := Json.field "version" (.ofNat n)
    let text (t : String) := Json.field "text" (.ofText (utf8 t))
    let message (method : String) (params : List (Bytes × Json)) : Message :=
      { Message.empty with method := utf8 method, params := some (.object params) }
    let document (fields : List (Bytes × Json)) := Json.field "textDocument" (.object fields)
    let changes (ts : List String) :=
      Json.field "contentChanges" (.array (ts.map fun t => .object [text t]))
    let ms := [
      message "textDocument/didOpen" [document [b, version 1, text "x"]],
      message "textDocument/didOpen" [document [a, version 1, text ""]],
      message "textDocument/didClose" [document [b]],
      message "textDocument/didChange" [document [a, version 2], changes ["y", "z\n"]],
      message "textDocument/didChange" [document [b, version 2], changes ["y"]]]
    let es := ms.filterMap Message.documentEvent?
    (∀ m ∈ ms, m.documentEvent?.isSome = true) ∧
      IsOpen (utf8 "a") es ∧ ¬ IsOpen (utf8 "b") es ∧ LastSet (utf8 "a") (utf8 "z\n") 2 es := by
  intro a b version text message document changes ms es
  have hms : ∀ m ∈ ms, m.documentEvent?.isSome = true := by decide +kernel
  let s := fresh [] [] .info true
  obtain ⟨hopen, hset, _⟩ :=
    documents_follow_messages ⟨[], []⟩ (s := s) rfl rfl hms
  have ha : (handleAll ⟨[], []⟩ s ms).1.documents.get? (utf8 "a") =
      some (.make (utf8 "a") (utf8 "z\n") 2) := by decide +kernel
  have hb : (handleAll ⟨[], []⟩ s ms).1.documents.get? (utf8 "b") = none := by decide +kernel
  refine ⟨hms, (hopen _).mp (by rw [ha]; rfl), ?_, (hset _ _ ha).1⟩
  rw [← hopen, hb]
  simp

end Messages

end Server
end CallAssist
