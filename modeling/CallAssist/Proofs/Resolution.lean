import CallAssist.Command.Run
import CallAssist.Proofs.Json.Strings
import CallAssist.Proofs.SignatureHelp

/-! One line, three ways to say where the cursor is: an offset on the command line, a bar typed at
the prompt, a column of a document. All of them find the same call. -/

namespace CallAssist

namespace Catalog

variable {c : Catalog} {line : Bytes} {offset : Int} {r : Resolution}

/-- What is found is the function at its position, with the arguments of the call there. -/
theorem exists_context_of_resolve (h : c.resolve line offset = some r) :
    c.functions[r.index]? = some r.function ∧
      ∃ context, CallContext.at? line offset = some context ∧
        r.activeParameter = CallContext.activeParameter context.args := by
  obtain ⟨context, hcontext, h⟩ := Option.bind_eq_some_iff.mp h
  obtain ⟨i, _, h⟩ := Option.bind_eq_some_iff.mp h
  obtain ⟨f, hf, h⟩ := Option.bind_eq_some_iff.mp h
  obtain rfl := Option.some.inj h
  exact ⟨hf, context, hcontext, rfl⟩

/-- The commas that are counted stand in the line. -/
theorem activeParameter_of_resolve_le (h : c.resolve line offset = some r) :
    r.activeParameter ≤ line.count 0x2C := by
  obtain ⟨_, context, hcontext, hactive⟩ := exists_context_of_resolve h
  obtain ⟨before, _, htyped, _⟩ := CallContext.ofText?_eq_some.mp hcontext
  calc
    r.activeParameter = CallContext.activeParameter context.args := hactive
    _ ≤ context.args.count 0x2C := CallContext.commasFrom_le_count false _
    _ ≤ (before ++ 0x28 :: context.args).count 0x2C :=
      ((List.sublist_cons_self _ _).trans (List.sublist_append_right _ _)).count_le _
    _ = (CallContext.beforeCursor line offset).count 0x2C := by rw [htyped]
    _ ≤ line.count 0x2C := (List.take_sublist _ _).count_le _

end Catalog

namespace Prompt

theorem splitCursor_mark {line : Bytes} {column : Nat} (hcolumn : column ≤ line.length)
    (hmark : cursor ∉ line.take column) :
    splitCursor (line.take column ++ cursor :: line.drop column) = (line, column) := by
  rw [splitCursor, Bytes.cut_append hmark]
  simp only [List.take_append_drop, List.length_take_of_le hcolumn]

/-- A line with a mark is neither empty nor one of the words that the prompt knows. -/
theorem ofLine_mark (before after : Bytes) :
    Request.ofLine (before ++ cursor :: after) = .resolve (before ++ cursor :: after) := by
  have hmark : Rune.point '|' ∈ Bytes.runes (before ++ cursor :: after) := by
    rw [Bytes.runes_append_ascii (by decide : cursor < 0x80)]
    exact List.mem_append_right _ List.mem_cons_self
  have hmem : cursor ∈ Bytes.trim (before ++ cursor :: after) :=
    Bytes.mem_trim hmark (by decide) cursor (by decide)
  have hne {word : Bytes} (hword : cursor ∉ word) :
      Bytes.trim (before ++ cursor :: after) ≠ word := by
    rintro rfl
    exact hword hmem
  have hempty := hne (List.not_mem_nil)
  have hquit := hne (by decide : cursor ∉ utf8 ".quit")
  have hexit := hne (by decide : cursor ∉ utf8 ".exit")
  have hhelp := hne (by decide : cursor ∉ utf8 ".help")
  simp [Request.ofLine, hempty, hquit, hexit, hhelp]

private theorem replace_of_not_mem {old : UInt8} {new t : Bytes} (h : old ∉ t) :
    Bytes.replace old new t = t := by
  induction t with
  | nil => rfl
  | cons b t ih =>
    obtain ⟨hb, ht⟩ := not_or.mp (mt List.mem_cons.mpr h)
    rw [Bytes.replace, List.flatMap_cons, if_neg (Ne.symm hb), ← Bytes.replace, ih ht]
    rfl

/-- A line that is well-formed and has no end in it is read as it was typed. -/
theorem lines_append {t : Bytes} (hutf8 : Bytes.isUtf8 t = true) (hfeed : 0x0A ∉ t)
    (hreturn : 0x0D ∉ t) (rest : Bytes) : lines (t ++ 0x0A :: rest) = t :: lines rest := by
  have hends : Bytes.replace 0x0D [0x0A] (t ++ 0x0A :: rest) =
      t ++ 0x0A :: Bytes.replace 0x0D [0x0A] rest := by
    rw [Bytes.replace, List.flatMap_append, ← Bytes.replace, replace_of_not_mem hreturn]
    rfl
  rw [lines, hends, Bytes.split_append_sep hfeed, List.map_cons]
  exact congrArg (· :: lines rest) (Json.scrub_of_isUtf8 hutf8)

/-- A mark at a boundary leaves a line well-formed. -/
theorem isUtf8_mark {line : Bytes} {column : Nat} (hutf8 : Bytes.isUtf8 line = true)
    (hcolumn : Bytes.IsBoundary line column) :
    Bytes.isUtf8 (line.take column ++ cursor :: line.drop column) = true := by
  rw [Bytes.isUtf8, hcolumn.runes_split, List.all_append, Bool.and_eq_true] at hutf8
  rw [Bytes.isUtf8, Bytes.runes_append_ascii (by decide : cursor < 0x80), List.all_append,
    List.all_cons, hutf8.1, hutf8.2]
  rfl

theorem not_mem_mark {b : UInt8} {line : Bytes} (column : Nat) (hb : b ≠ cursor) (h : b ∉ line) :
    b ∉ line.take column ++ cursor :: line.drop column := by
  rw [List.mem_append, List.mem_cons]
  rintro (hmem | rfl | hmem)
  · exact h (List.mem_of_mem_take hmem)
  · exact hb rfl
  · exact h (List.mem_of_mem_drop hmem)

/-- A line with its mark is answered with the call at the mark, and the dialogue goes on. -/
theorem answers_mark {line : Bytes} {column : Nat} (hcolumn : column ≤ line.length)
    (hmark : cursor ∉ line.take column) (r : Renderer) (c : Catalog) (more : List Bytes) :
    answers r c ((line.take column ++ cursor :: line.drop column) :: more) =
      Resolution.printed r (c.resolve line column) ++ answers r c more := by
  rw [answers, ofLine_mark]
  simp only [respond, splitCursor_mark hcolumn hmark]

end Prompt

/-- The command for a line and an offset in it. -/
theorem Program.resolve_line {setup : Setup} {flags : Command.Parsed} {c : Catalog} {line : Bytes}
    {column : Nat} (renderer : Renderer)
    (hload : Catalog.load setup.files setup.settings.catalogPath = .ok c)
    (hinteractive : flags.bool? "interactive" ≠ some true)
    (hline : flags.text? "line" = some line) (hcolumn : flags.int? "col" = some (column : Int)) :
    Program.resolve setup renderer flags =
      finished (Resolution.printed renderer (c.resolve line column)) := by
  have hbatch : (flags.bool? "interactive").getD false = false := by
    cases h : flags.bool? "interactive" with
    | none => rfl
    | some b =>
      rw [h] at hinteractive
      simpa using hinteractive
  have hoffset : ¬ (column : Int) < 0 := by omega
  simp only [resolve, hload, hbatch, hline, hcolumn, Option.getD_some, if_neg hoffset,
    Bool.false_eq_true, if_false]

namespace Server

/-- Help at the column of a boundary is what the line resolves to there. -/
theorem signatureHelp_boundary {s : Server} {c : Catalog} {line : Bytes} {column : Nat}
    {uri : Bytes} {version : Int} (context : Option HelpContext)
    (hs : s.session = some (.ofCatalog c))
    (hd : s.documents.get? uri = some (.make uri line version)) (hfeed : 0x0A ∉ line)
    (hreturn : line.getLast? ≠ some 0x0D) (hcolumn : Bytes.IsBoundary line column)
    (hfits : Bytes.unitCount (Bytes.runes line) < UInt32.size) :
    (s.signatureHelp ⟨uri, ⟨0, (Bytes.columnOfOffset line column).toUInt32⟩, context⟩).1 =
      (c.resolve line column).map fun r =>
        ⟨c.functions.map .ofFunction, r.index, r.activeParameter⟩ := by
  have hunits : (Bytes.columnOfOffset line column).toUInt32.toNat =
      Bytes.columnOfOffset line column :=
    Nat.mod_eq_of_lt (Nat.lt_of_le_of_lt hcolumn.columnOfOffset_le hfits)
  rw [signatureHelp_document hs hd, Document.lineAt_make_single hfeed hreturn hcolumn hunits]

end Server

/-- A line at the command, with a bar at the prompt, and in a document of a server: whichever way
the cursor is placed at a character boundary, the same call is found, or none is. -/
theorem resolution_agrees (c : Catalog) (line : Bytes) (column : Nat) (s : Server) (uri : Bytes)
    (version : Int) (context : Option Server.HelpContext) (hutf8 : Bytes.isUtf8 line = true)
    (hfeed : 0x0A ∉ line) (hreturn : line.getLast? ≠ some 0x0D)
    (hcolumn : Bytes.IsBoundary line column)
    (hfits : Bytes.unitCount (Bytes.runes line) < UInt32.size)
    (hs : s.session = some (.ofCatalog c))
    (hd : s.documents.get? uri = some (.make uri line version)) :
    let found := c.resolve line column
    let help := (s.signatureHelp
      ⟨uri, ⟨0, (Bytes.columnOfOffset line column).toUInt32⟩, context⟩).1
    let typed := line.take column ++ Prompt.cursor :: line.drop column
    (help.isSome = true ↔ found.isSome = true) ∧
    (∀ r h, found = some r → help = some h →
      h.activeSignature = r.index ∧ h.activeParameter = r.activeParameter ∧
      (∃ i, h.signatures[h.activeSignature]? = some i ∧ i.label = r.function.signature ∧
        i.parameters = r.function.params) ∧
      (Server.helpResult h).fields.lookup (utf8 "activeSignature") =
        some (.ofNat (r.index % UInt32.size)) ∧
      (Server.helpResult h).fields.lookup (utf8 "activeParameter") =
        some (.ofNat r.activeParameter)) ∧
    (∀ setup renderer flags,
      Catalog.load setup.files setup.settings.catalogPath = .ok c →
      flags.bool? "interactive" ≠ some true → flags.text? "line" = some line →
      flags.int? "col" = some (column : Int) →
      Program.resolve setup renderer flags =
        Program.finished (Resolution.printed renderer found)) ∧
    (Prompt.cursor ∉ line.take column →
      Prompt.splitCursor typed = (line, column) ∧
      (∀ renderer more, Prompt.answers renderer c (typed :: more) =
        Resolution.printed renderer found ++ Prompt.answers renderer c more) ∧
      ((∀ b ∈ line, 0x20 ≤ b ∧ b ≠ 0x7F) → ∀ rest,
        Prompt.lines (typed ++ 0x0A :: rest) = typed :: Prompt.lines rest)) := by
  intro found help typed
  have hhelp : help = found.map fun r =>
      ⟨c.functions.map .ofFunction, r.index, r.activeParameter⟩ :=
    Server.signatureHelp_boundary context hs hd hfeed hreturn hcolumn hfits
  refine ⟨?_, ?_, ?_, ?_⟩
  · rw [hhelp, Option.isSome_map]
  · intro r h hr hh
    rw [hhelp, hr, Option.map_some] at hh
    obtain rfl := Option.some.inj hh
    obtain ⟨hf, _⟩ := Catalog.exists_context_of_resolve hr
    have hactive : r.activeParameter < UInt32.size :=
      ((Catalog.activeParameter_of_resolve_le hr).trans
        (Bytes.count_le_unitCount (by decide) line)).trans_lt hfits
    have hwhole : r.activeParameter.toUInt32.toNat = r.activeParameter := Nat.mod_eq_of_lt hactive
    refine ⟨rfl, rfl, ⟨.ofFunction r.function, ?_, rfl, rfl⟩, rfl, ?_⟩
    · rw [List.getElem?_map, hf]
      rfl
    · exact congrArg (fun n => some (Json.ofNat n)) hwhole
  · intro setup renderer flags hload hinteractive hline hcol
    exact Program.resolve_line renderer hload hinteractive hline hcol
  · intro hmark
    refine ⟨Prompt.splitCursor_mark hcolumn.le_length hmark, ?_, ?_⟩
    · intro renderer more
      exact Prompt.answers_mark hcolumn.le_length hmark renderer c more
    · intro hplain rest
      have hno : 0x0D ∉ line := fun hmem => absurd (hplain _ hmem).1 (by decide)
      exact Prompt.lines_append (Prompt.isUtf8_mark hutf8 hcolumn)
        (Prompt.not_mem_mark column (by decide) hfeed)
        (Prompt.not_mem_mark column (by decide) hno) rest

section Beep

def beep : Function := ⟨utf8 "beep", [utf8 "hz", utf8 "ms"], utf8 "A tone."⟩

def beepCatalog : Catalog := ⟨[beep], [(utf8 "beep", 0)]⟩

def beepLine : Bytes := utf8 "😀 beep(\"€\", 2) | 1"

def beepTyped : Bytes := utf8 "😀 beep(\"€\", |2) | 1"

def beepServer : Server := { Server.fresh [] [] .info true with
  session := some (.ofCatalog beepCatalog), documents := Documents.empty.open [] beepLine 1 }

def beepSetup : Program.Setup where
  settings := ⟨utf8 "/c.json", utf8 "info", [], false, utf8 "auto", []⟩
  level := .info
  files := ⟨utf8 "/", [([utf8 "c.json"], .file (utf8
    "[\x7b\"name\":\"beep\",\"params\":[\"hz\",\"ms\"],\"description\":\"A tone.\"\x7d]"))]⟩
  records := []

def beepFlags : Command.Parsed := ⟨[(utf8 "line", .text beepLine), (utf8 "col", .int 17)], []⟩

/-- The cursor is in the second argument, whichever way it is placed there. -/
theorem resolution_agrees_beep :
    Bytes.columnOfOffset beepLine 17 = 13 ∧ beepCatalog.resolve beepLine 17 = some ⟨beep, 0, 1⟩ ∧
      (∃ h, (beepServer.signatureHelp ⟨[], ⟨0, 13⟩, none⟩).1 = some h ∧ h.activeSignature = 0 ∧
        h.activeParameter = 1) ∧
      (∀ renderer, Program.resolve beepSetup renderer beepFlags =
        Program.finished (Resolution.printed renderer (some ⟨beep, 0, 1⟩))) ∧
      Prompt.splitCursor beepTyped = (beepLine, 17) ∧
      ∀ renderer, Prompt.answers renderer beepCatalog (Prompt.lines (beepTyped ++ [0x0A])) =
        Resolution.printed renderer (some ⟨beep, 0, 1⟩) ++
          Prompt.answers renderer beepCatalog (Prompt.lines []) := by
  have hboundary : Bytes.IsBoundary beepLine 17 :=
    ⟨(Bytes.runes beepLine).take 12, (Bytes.runes beepLine).drop 12,
      (List.take_append_drop 12 _).symm, by decide +kernel⟩
  have hcolumn : Bytes.columnOfOffset beepLine 17 = 13 := by decide +kernel
  have hfound : beepCatalog.resolve beepLine (17 : Nat) = some ⟨beep, 0, 1⟩ := by decide +kernel
  have htyped : beepLine.take 17 ++ Prompt.cursor :: beepLine.drop 17 = beepTyped := by
    decide +kernel
  have hload : Catalog.load beepSetup.files beepSetup.settings.catalogPath = .ok beepCatalog := by
    decide +kernel
  obtain ⟨hsome, hsame, hcommand, hprompt⟩ :=
    resolution_agrees beepCatalog beepLine 17 beepServer [] 1 none (by decide +kernel)
      (by decide +kernel) (by decide +kernel) hboundary (by decide +kernel) rfl rfl
  obtain ⟨hsplit, hanswers, hlines⟩ := hprompt (by decide +kernel)
  rw [hcolumn, hfound] at hsome hsame
  rw [hfound] at hcommand
  rw [htyped] at hsplit hanswers hlines
  obtain ⟨h, hh⟩ := Option.isSome_iff_exists.mp (hsome.mpr rfl)
  obtain ⟨hsignature, hparameter, _⟩ := hsame _ h rfl hh
  refine ⟨hcolumn, hfound, ⟨h, hh, hsignature, hparameter⟩, ?_, hsplit, ?_⟩
  · intro renderer
    exact hcommand beepSetup renderer beepFlags hload (by decide +kernel) (by decide +kernel)
      (by decide +kernel)
  · intro renderer
    rw [hlines (by decide +kernel), hanswers, hfound]

end Beep

end CallAssist
