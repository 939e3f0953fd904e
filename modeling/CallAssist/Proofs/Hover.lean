import CallAssist.Proofs.Document.Words
import CallAssist.Proofs.SignatureHelp

/-! Hovering over the end of a name and asking for help behind the parenthesis that follows it.
Both look at the same word, one in the line around a column, the other in the text before a
cursor. -/

namespace CallAssist

namespace Document

/-- In front of a parenthesis the word at an offset is the one that ends there. -/
theorem wordAt_paren {before after : Bytes} (hfeed : 0x0A ∉ before ++ 0x28 :: after)
    (hreturn : (before ++ 0x28 :: after).getLast? ≠ some 0x0D) {here : UInt32}
    (hhere : here.toNat = Bytes.columnOfOffset (before ++ 0x28 :: after) before.length)
    (uri : Bytes) (version : Int) :
    ((make uri (before ++ 0x28 :: after) version).wordAt ⟨0, here⟩).1 =
      Bytes.trailingWord before := by
  have hplace := Bytes.isBoundary_before_ascii (by decide : (0x28 : UInt8) < 0x80) before after
  rw [wordAt, lineAt_make_single hfeed hreturn hplace hhere, wordIn_word (by simp), wordAround,
    List.take_left, List.drop_left]
  exact List.append_nil _

end Document

/-- The call that a parenthesis has just opened. -/
theorem CallContext.at?_paren (before after : Bytes) :
    CallContext.at? (before ++ 0x28 :: after) ((before.length + 1 : Nat) : Int) =
      some ⟨Bytes.trailingWord (Bytes.trim before), []⟩ := by
  have htyped : (before ++ 0x28 :: after).take (before.length + 1) = before ++ 0x28 :: [] := by
    rw [List.take_length_add_append]
    rfl
  rw [at?, beforeCursor, Int.toNat_natCast, htyped, ofText?,
    Bytes.cutLast_append (List.not_mem_nil)]

namespace Catalog

theorem Indexed.lookup?_nil {c : Catalog} (hc : c.Indexed) : c.lookup? [] = none := by
  rw [lookup?, Option.bind_eq_none_iff]
  intro i hi
  obtain ⟨f, hf, hname⟩ := (hc.position [] i).mp hi
  have := hc.identifier f (List.mem_of_getElem? hf)
  rw [hname] at this
  cases this

/-- A name is looked up where a call of it is. -/
theorem Indexed.lookup?_select {c : Catalog} (hc : c.Indexed) (name args : Bytes) :
    (c.lookup? name = none ∧ c.select name args = none) ∨
      ∃ f i, c.functions[i]? = some f ∧ c.lookup? name = some f ∧
        c.select name args = some ⟨f, i, CallContext.activeParameter args⟩ := by
  cases hname : c.index? name with
  | none =>
    left
    rw [lookup?, select, hname]
    exact ⟨rfl, rfl⟩
  | some i =>
    right
    obtain ⟨f, hf, rfl⟩ := (hc.position name i).mp hname
    refine ⟨f, i, hf, ?_, hc.select_eq_some args hf⟩
    rw [lookup?, hname]
    exact hf

end Catalog

namespace Server

/-- Hovering over an open document describes the function that the word there names. -/
theorem hover_document {s : Server} {c : Catalog} {p : PlaceParams} {d : Document}
    (hc : c.Indexed) (hs : s.session = some (.ofCatalog c)) (hd : s.documents.get? p.uri = some d) :
    s.hover p = (c.lookup? (d.wordAt p.position).1).map fun f => (f, (d.wordAt p.position).2) := by
  rw [hover, hs, hd]
  simp only
  split_ifs with hempty
  · rw [List.isEmpty_iff.mp hempty, hc.lookup?_nil]
    rfl
  · rfl

/-- Help behind a parenthesis that was just typed is about the function named before it. -/
theorem signatureHelp_paren {s : Server} {c : Catalog} {p : PlaceParams} {before after : Bytes}
    {version : Int} (hs : s.session = some (.ofCatalog c))
    (hd : s.documents.get? p.uri = some (.make p.uri (before ++ 0x28 :: after) version))
    (hfeed : 0x0A ∉ before ++ 0x28 :: after)
    (hreturn : (before ++ 0x28 :: after).getLast? ≠ some 0x0D) (hline : p.position.line = 0)
    (hcolumn : p.position.character.toNat =
      Bytes.columnOfOffset (before ++ 0x28 :: after) before.length + 1) :
    (s.signatureHelp p).1 = (c.select (Bytes.trailingWord (Bytes.trim before)) []).map fun r =>
      ⟨c.functions.map .ofFunction, r.index, r.activeParameter⟩ := by
  have hascii : (0x28 : UInt8) < 0x80 := by decide
  rw [← Bytes.columnOfOffset_behind_ascii hascii] at hcolumn
  have hplace : p.position = ⟨0, p.position.character⟩ := by rw [← hline]
  rw [signatureHelp_document hs hd, hplace, Document.lineAt_make_single hfeed hreturn
    (Bytes.isBoundary_behind_ascii hascii before after) hcolumn]
  rw [Catalog.resolve, CallContext.at?_paren]
  rfl

/-- Hovering over the end of a name and asking for help behind the parenthesis that follows it look
at one word, and so at one function. -/
theorem hover_agrees_with_help {t : Bytes} {k : Nat} {here : UInt32} (hfeed : 0x0A ∉ t)
    (hreturn : t.getLast? ≠ some 0x0D) (hparen : t[k]? = some 0x28)
    (hblank : ∀ r ∈ (Bytes.runes (t.take k)).getLast?, r.isBlank = false)
    (hhere : here.toNat = Bytes.columnOfOffset t k) (uri : Bytes) (version : Int) :
    (CallContext.at? t ((k + 1 : Nat) : Int)).map CallContext.name =
        some ((Document.make uri t version).wordAt ⟨0, here⟩).1 ∧
      ∀ (fs : List Function) (c : Catalog) (s : Server) (next : UInt32)
        (hovering asking : Option HelpContext),
        Catalog.ofFunctions fs = .ok c → s.session = some (.ofCatalog c) →
        s.documents.get? uri = some (.make uri t version) → next.toNat = here.toNat + 1 →
        let hovered := s.hover ⟨uri, ⟨0, here⟩, hovering⟩
        let help := (s.signatureHelp ⟨uri, ⟨0, next⟩, asking⟩).1
        (hovered.isSome = true ↔ help.isSome = true) ∧
        ∀ f range h, hovered = some (f, range) → help = some h →
          fs[h.activeSignature]? = some f ∧
          h.signatures[h.activeSignature]? = some (.ofFunction f) := by
  obtain ⟨before, after, rfl, rfl⟩ : ∃ before after, t = before ++ 0x28 :: after ∧
      k = before.length := by
    obtain ⟨hk, hbyte⟩ := List.getElem?_eq_some_iff.mp hparen
    refine ⟨t.take k, t.drop (k + 1), ?_, (List.length_take_of_le (Nat.le_of_lt hk)).symm⟩
    rw [← hbyte, List.getElem_cons_drop, List.take_append_drop]
  rw [List.take_left] at hblank
  have hword := Document.wordAt_paren hfeed hreturn hhere uri version
  rw [← Bytes.trailingWord_trim hblank] at hword
  refine ⟨by rw [CallContext.at?_paren, hword]; rfl, ?_⟩
  intro fs c s next hovering asking hc hs hd hnext hovered help
  obtain ⟨rfl, hi⟩ := Catalog.ofFunctions_ok hc
  have hhover := hover_document (p := ⟨uri, ⟨0, here⟩, hovering⟩) hi hs hd
  have hhelp := signatureHelp_paren (p := ⟨uri, ⟨0, next⟩, asking⟩) hs hd hfeed hreturn rfl
    (by rw [hnext, hhere])
  rw [hword] at hhover
  simp only [hovered, help, hhover, hhelp]
  rcases hi.lookup?_select (Bytes.trailingWord (Bytes.trim before)) [] with
    ⟨hunknown, huncalled⟩ | ⟨f, i, hf, hknown, hcalled⟩
  · rw [hunknown, huncalled]
    refine ⟨Iff.rfl, ?_⟩
    rintro f range h hf
    cases hf
  · rw [hknown, hcalled]
    refine ⟨Iff.rfl, ?_⟩
    rintro g range h hg hh
    obtain ⟨rfl, -⟩ := Prod.mk.inj (Option.some.inj hg)
    obtain rfl := Option.some.inj hh
    exact ⟨hf, by rw [List.getElem?_map, hf]; rfl⟩

/-- The inner one of two calls, behind a character of two units. -/
theorem hover_agrees_with_help_nested :
    let wait : Function := ⟨utf8 "wait", [utf8 "ms"], []⟩
    let beep : Function := ⟨utf8 "beep", [utf8 "hz", utf8 "ms"], utf8 "A tone."⟩
    let c : Catalog := ⟨[wait, beep], [(utf8 "beep", 1), (utf8 "wait", 0)]⟩
    let t := utf8 "😀 wait (beep(1, 2"
    let s : Server := { fresh [] [] .info true with
      session := some (.ofCatalog c), documents := Documents.empty.open [] t 1 }
    Catalog.ofFunctions [wait, beep] = .ok c ∧ t[15]? = some 0x28 ∧
      (13 : UInt32).toNat = Bytes.columnOfOffset t 15 ∧
      (CallContext.at? t 16).map CallContext.name = some (utf8 "beep") ∧
      ∃ range h, s.hover ⟨[], ⟨0, 13⟩, none⟩ = some (beep, range) ∧
        (s.signatureHelp ⟨[], ⟨0, 14⟩, none⟩).1 = some h ∧
        h.signatures[h.activeSignature]? = some (.ofFunction beep) := by
  intro wait beep c t s
  have hparen : t[15]? = some 0x28 := by decide +kernel
  have hblank : ∀ r ∈ (Bytes.runes (t.take 15)).getLast?, r.isBlank = false := by decide +kernel
  have hcolumn : (13 : UInt32).toNat = Bytes.columnOfOffset t 15 := by decide +kernel
  have hc : Catalog.ofFunctions [wait, beep] = .ok c := rfl
  obtain ⟨hname, hagree⟩ := hover_agrees_with_help (t := t) (k := 15) (by decide +kernel)
    (by decide +kernel) hparen hblank hcolumn [] 1
  obtain ⟨hboth, hsame⟩ := hagree [wait, beep] c s 14 none none hc rfl rfl rfl
  have hword : ((Document.make [] t 1).wordAt ⟨0, 13⟩).1 = utf8 "beep" := by decide +kernel
  have hhover : (s.hover ⟨[], ⟨0, 13⟩, none⟩).map Prod.fst = some beep := by decide +kernel
  obtain ⟨⟨f, range⟩, hover, rfl⟩ := Option.map_eq_some_iff.mp hhover
  obtain ⟨h, hh⟩ := Option.isSome_iff_exists.mp (hboth.mp (by rw [hover]; rfl))
  refine ⟨hc, hparen, hcolumn, ?_, range, h, hover, hh, (hsame _ _ _ hover hh).2⟩
  rw [← hword]
  exact hname

end Server

end CallAssist
