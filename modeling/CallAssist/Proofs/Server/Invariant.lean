import CallAssist.Proofs.Catalog.Index
import CallAssist.Proofs.Document.Lines
import CallAssist.Proofs.Server.Dispatch
import CallAssist.Proofs.Text.Columns

/-! What holds of a server between any two messages: the offsets of a document are those of its
lines, and the catalogue of its session has a faithful index. -/

namespace CallAssist

namespace Document

def WordInBounds (d : Document) (p : Position) : Prop :=
  let (text, offset) := d.lineAt p
  let (start, stop) := wordBounds text offset
  start + (Bytes.trailingWord (text.take offset)).length = offset ∧ offset ≤ stop ∧
    stop ≤ text.length

theorem wordInBounds (d : Document) (p : Position) : d.WordInBounds p := by
  have ho : (d.lineAt p).2 ≤ (d.lineAt p).1.length := Bytes.offsetOfColumn_le _ _
  generalize hl : d.lineAt p = place at ho
  obtain ⟨text, offset⟩ := place
  have hfront : (Bytes.trailingWord (text.take offset)).length ≤ offset := by
    rw [Bytes.trailingWord, List.length_reverse]
    refine (List.takeWhile_sublist _).length_le.trans ?_
    rw [List.length_reverse]
    exact List.length_take_le _ _
  have hback : ((text.drop offset).takeWhile Bytes.isWord).length ≤ text.length - offset := by
    rw [← List.length_drop]
    exact (List.takeWhile_sublist _).length_le
  simp only [WordInBounds, hl, wordBounds]
  simp only at ho
  omega

end Document

namespace Server

/-- A server whose tables are as they were built. -/
structure Sound (s : Server) : Prop where
  documents : ∀ e ∈ s.documents.entries, e.2.lines = lineStarts e.2.content
  session : ∀ x, s.session = some x → x.catalog.Indexed

theorem fresh_sound (catalogPath version : Bytes) (level : Level) (adjustable : Bool) :
    (fresh catalogPath version level adjustable).Sound where
  documents e he := by cases he
  session x hx := by cases hx

private theorem entries_open {ds : Documents} {uri content : Bytes} {version : Int}
    (h : ∀ e ∈ ds.entries, e.2.lines = lineStarts e.2.content) :
    ∀ e ∈ (ds.open uri content version).entries, e.2.lines = lineStarts e.2.content := by
  intro e he
  rcases List.mem_cons.mp he with rfl | he
  · rfl
  · exact h e (List.mem_of_mem_filter he)

/-- No message disturbs the tables. -/
theorem Sound.handle {s : Server} (hs : s.Sound) (fs : Files) (m : Message) :
    (s.handle fs m).1.Sound := by
  have hm := handle_moves fs s m
  generalize (s.handle fs m).1 = s' at hm
  cases hm with
  | stay h => exact hs
  | enter h root level => exact ⟨hs.documents, hs.session⟩
  | start h root level path c hc =>
    refine ⟨hs.documents, fun x hx => ?_⟩
    obtain rfl : Session.ofCatalog c = x := Option.some.inj hx
    exact Catalog.load_indexed hc
  | breakDown h root level => exact ⟨hs.documents, hs.session⟩
  | confirm h => exact ⟨hs.documents, hs.session⟩
  | stop h =>
    rw [closeSession_fst]
    refine ⟨hs.documents, fun x hx => ?_⟩
    obtain ⟨y, hy, rfl⟩ := Option.map_eq_some_iff.mp hx
    have hc : y.shutdown.1.catalog = y.catalog := by
      unfold Session.shutdown
      split <;> rfl
    rw [hc]
    exact hs.session y hy
  | openDocument h uri content version => exact ⟨entries_open hs.documents, hs.session⟩
  | closeDocument h uri =>
    exact ⟨fun e he => hs.documents e (List.mem_of_mem_filter he), hs.session⟩
  | changeDocument h uri content version =>
    refine ⟨?_, hs.session⟩
    simp only [Documents.update]
    split
    · exact entries_open hs.documents
    · exact hs.documents

/-- Whatever a server looks up by its position is there. -/
structure InBounds (s : Server) : Prop where
  lines : ∀ uri d, s.documents.get? uri = some d → d.LinesInBounds
  word : ∀ uri d, s.documents.get? uri = some d → ∀ p, d.WordInBounds p
  position : ∀ x, s.session = some x → ∀ name i, x.catalog.index? name = some i →
    i < x.catalog.size
  named : ∀ x, s.session = some x → ∀ f ∈ x.catalog.functions, f.name ≠ []

theorem Sound.inBounds {s : Server} (hs : s.Sound) : s.InBounds where
  lines uri d hd := by
    obtain ⟨l₁, l₂, he, _⟩ := List.lookup_eq_some_iff.mp hd
    exact Document.linesInBounds_of_lineStarts (hs.documents (uri, d) (by rw [he]; simp))
  word uri d _ p := d.wordInBounds p
  position x hx name i hi := by
    obtain ⟨f, hf, _⟩ := ((hs.session x hx).position name i).mp hi
    exact (List.getElem?_eq_some_iff.mp hf).1
  named x hx f hf hn := by
    have := (hs.session x hx).identifier f hf
    rw [hn] at this
    cases this

end Server

end CallAssist
