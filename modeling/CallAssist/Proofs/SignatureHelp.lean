import CallAssist.Proofs.Call.Grammar
import CallAssist.Proofs.Catalog.Index
import CallAssist.Proofs.Document.Lines
import CallAssist.Proofs.Text.Columns
import CallAssist.Server.Basic

/-! Signature help from the text of a document to the answer: which call the cursor stands in, which
function that is, and which of its arguments is being typed. -/

namespace CallAssist

namespace Catalog

/-- A call is known exactly when a function has its name. -/
theorem Indexed.select_eq_none {c : Catalog} (hc : c.Indexed) {name args : Bytes} :
    c.select name args = none ↔ ∀ f ∈ c.functions, f.name ≠ name := by
  constructor
  · intro h f hf hn
    obtain ⟨i, hi⟩ := List.getElem?_of_mem hf
    have hp := (hc.position name i).mpr ⟨f, hi, hn⟩
    simp [select, hp, at?, hi] at h
  · intro h
    have hn : c.index? name = none := by
      rw [Option.eq_none_iff_forall_ne_some]
      intro i hi
      obtain ⟨f, hf, hname⟩ := (hc.position name i).mp hi
      exact h f (List.mem_of_getElem? hf) hname
    simp [select, hn]

/-- The function of a known call is the one at the position of its name. -/
theorem Indexed.select_eq_some {c : Catalog} (hc : c.Indexed) {f : Function} {i : Nat} (args : Bytes)
    (h : c.functions[i]? = some f) :
    c.select f.name args = some ⟨f, i, CallContext.activeParameter args⟩ := by
  have hp := (hc.position f.name i).mpr ⟨f, h, rfl⟩
  simp [select, hp, at?, h]

end Catalog

namespace Server

def typedAt (content : Bytes) (p : Position) : Bytes :=
  Bytes.columnPrefix (dropReturn (((Bytes.split 0x0A content)[p.line.toNat]?).getD []))
    p.character.toNat

/-- Help on an open document is what the line and offset of the position resolve to. -/
theorem signatureHelp_document {s : Server} {c : Catalog} {p : PlaceParams} {d : Document}
    (hs : s.session = some (.ofCatalog c)) (hd : s.documents.get? p.uri = some d) :
    (s.signatureHelp p).1 =
      (c.resolve (d.lineAt p.position).1 (d.lineAt p.position).2).map fun r =>
        ⟨c.functions.map .ofFunction, r.index, r.activeParameter⟩ := by
  rw [signatureHelp, hs, hd]
  simp only [Session.signatureHelp, Session.ofCatalog, Bool.false_eq_true, if_false]
  cases c.resolve (d.lineAt p.position).1 (d.lineAt p.position).2 with
  | none => rfl
  | some r => rfl

private theorem signatureHelp_eq (s : Server) (c : Catalog) (p : PlaceParams) (content : Bytes)
    (version : Int) (hs : s.session = some (.ofCatalog c))
    (hd : s.documents.get? p.uri = some (.make p.uri content version)) :
    (s.signatureHelp p).1 =
      ((CallContext.ofText? (typedAt content p.position)).bind fun call =>
        c.select call.name call.args).map fun r =>
          ⟨c.functions.map .ofFunction, r.index, r.activeParameter⟩ := by
  rw [signatureHelp_document hs hd]
  simp only [Document.lineAt]
  rw [Catalog.resolve, CallContext.at?, CallContext.beforeCursor, Int.toNat_natCast,
    Bytes.take_offsetOfColumn, Document.line_make]
  rfl

/-- Help is given exactly for the call of a known function. It then shows every signature in
catalogue order, points at the one function of that name, and counts the commas typed so far. -/
theorem signatureHelp_exact (s : Server) (fs : List Function) (c : Catalog) (p : PlaceParams)
    (content : Bytes) (version : Int) (hc : Catalog.ofFunctions fs = .ok c)
    (hs : s.session = some (.ofCatalog c))
    (hd : s.documents.get? p.uri = some (.make p.uri content version)) :
    let line := dropReturn (((Bytes.split 0x0A content)[p.position.line.toNat]?).getD [])
    let typed := Bytes.columnPrefix line p.position.character.toNat
    ((s.signatureHelp p).1 = none ↔
      0x28 ∉ typed ∨ ∃ name args, OpenCall typed name args ∧ ∀ f ∈ fs, f.name ≠ name) ∧
    ∀ name args f, OpenCall typed name args → f ∈ fs → f.name = name →
      ∃ i h, (s.signatureHelp p).1 = some h ∧
        h.signatures = fs.map (fun g => ⟨g.signature, g.description, g.params⟩) ∧
        h.activeSignature = i ∧ fs[i]? = some f ∧
        (∀ j g, fs[j]? = some g → g.name = name → j = i) ∧
        h.signatures[h.activeSignature]? = some ⟨f.signature, f.description, f.params⟩ ∧
        h.activeParameter = commasOutsideQuotes args ∧
        (helpResult h).fields.lookup (utf8 "activeSignature") = some (.ofNat (i % UInt32.size)) ∧
        (helpResult h).fields.lookup (utf8 "activeParameter") =
          some (.ofNat (commasOutsideQuotes args % UInt32.size)) := by
  intro line typed
  obtain ⟨rfl, hi⟩ := Catalog.ofFunctions_ok hc
  have he : (s.signatureHelp p).1 = ((CallContext.ofText? typed).bind fun call =>
      c.select call.name call.args).map fun r =>
        ⟨c.functions.map .ofFunction, r.index, r.activeParameter⟩ :=
    signatureHelp_eq s c p content version hs hd
  constructor
  · rw [he, Option.map_eq_none_iff]
    cases hcall : CallContext.ofText? typed with
    | none =>
      have hopen := CallContext.ofText?_eq_none.mp hcall
      exact ⟨fun _ => .inl hopen, fun _ => rfl⟩
    | some call =>
      have hopen := CallContext.ofText?_eq_some.mp hcall
      rw [Option.bind_some, hi.select_eq_none]
      constructor
      · exact fun h => .inr ⟨call.name, call.args, hopen, h⟩
      · rintro (hparen | ⟨name, args, hother, h⟩)
        · rw [CallContext.ofText?_eq_none.mpr hparen] at hcall
          cases hcall
        · have hsame := CallContext.ofText?_eq_some (c := ⟨name, args⟩).mpr hother
          rw [hcall] at hsame
          cases hsame
          exact h
  · rintro name args f hopen hf rfl
    obtain ⟨i, hget⟩ := List.getElem?_of_mem hf
    have hcall := CallContext.ofText?_eq_some (c := ⟨f.name, args⟩).mpr hopen
    rw [hcall, Option.bind_some, hi.select_eq_some args hget, Option.map_some] at he
    refine ⟨i, _, he, rfl, rfl, hget, ?_, ?_, CallContext.activeParameter_eq args, rfl, ?_⟩
    · exact fun j g hj hn => hi.position_unique hj hget hn
    · simp [hget, SignatureInfo.ofFunction]
    · rw [← CallContext.activeParameter_eq]
      rfl

/-- A call on the second line, behind a character of two units. -/
theorem signatureHelp_second_line :
    let wait : Function := ⟨utf8 "wait", [utf8 "ms"], []⟩
    let beep : Function := ⟨utf8 "beep", [utf8 "hz", utf8 "ms"], utf8 "A tone."⟩
    let c : Catalog := ⟨[wait, beep], [(utf8 "beep", 1), (utf8 "wait", 0)]⟩
    let content := utf8 "x\r\n😀 beep (1,\r\n"
    let s : Server := { fresh [] [] .info true with
      session := some (.ofCatalog c), documents := Documents.empty.open [] content 1 }
    let p : PlaceParams := ⟨[], ⟨1, 11⟩, none⟩
    Catalog.ofFunctions [wait, beep] = .ok c ∧ s.session = some (.ofCatalog c) ∧
      s.documents.get? p.uri = some (.make p.uri content 1) ∧
      ∃ h, (s.signatureHelp p).1 = some h ∧ h.activeSignature = 1 ∧ h.activeParameter = 1 := by
  intro wait beep c content s p
  have hc : Catalog.ofFunctions [wait, beep] = .ok c := rfl
  have hd : s.documents.get? p.uri = some (.make p.uri content 1) := rfl
  have hopen : OpenCall (typedAt (utf8 "x\r\n😀 beep (1,\r\n") ⟨1, 11⟩) (utf8 "beep") (utf8 "1,") :=
    ⟨utf8 "😀 beep ", utf8 "😀 beep", by decide +kernel, by decide,
      Bytes.trims_iff.mpr (by decide +kernel), Bytes.endsInWord_iff.mpr (by decide +kernel)⟩
  obtain ⟨i, h, hh, _, ha, _, hu, _, hp, _⟩ :=
    (signatureHelp_exact s [wait, beep] c p content 1 hc rfl hd).2 _ _ beep hopen (by simp) rfl
  refine ⟨hc, rfl, hd, h, hh, ?_, ?_⟩
  · rw [ha, ← hu 1 beep rfl rfl]
  · rw [hp]
    decide

end Server

end CallAssist
