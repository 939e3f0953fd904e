import CallAssist.Proofs.SignatureHelp

/-! Accepting a suggestion. The text that is put in opens help on the function that was suggested,
whatever stands around it. -/

namespace CallAssist

namespace Bytes

private theorem isWord_rune {b : UInt8} (h : isWord b = true) :
    b < 0x80 ∧ Rune.isBlank (.point (Char.ofNat b.toNat)) = false := by
  have all : ∀ n : Fin 256, isWord (.ofFin n) = true → UInt8.ofFin n < 0x80 ∧
      Rune.isBlank (.point (Char.ofNat (UInt8.ofFin n).toNat)) = false := by decide +kernel
  exact all b.toFin h

/-- Trimming takes nothing from a word at the end of a text, and nothing from its end. -/
theorem trims_append_word (front : Bytes) {word : Bytes} (hne : word ≠ [])
    (hw : ∀ b ∈ word, isWord b = true) :
    ∃ rest, rest <:+ front ∧ Trims (front ++ word) (rest ++ word) := by
  have hrunes : runes word = word.map fun b => .point (Char.ofNat b.toNat) :=
    runes_of_ascii fun b hb => (isWord_rune (hw b hb)).1
  have hsplit : runes (front ++ word) = runes front ++ runes word :=
    runes_append (fun b hb => (isWord_rune (hw b (List.mem_of_mem_head? hb))).1) front
  have hclear : ∀ r ∈ runes word, r.isBlank = false := by
    intro r hr
    rw [hrunes] at hr
    obtain ⟨b, hb, rfl⟩ := List.mem_map.mp hr
    exact (isWord_rune (hw b hb)).2
  have hwne : runes word ≠ [] := by simpa [hrunes] using hne
  have hfront := List.takeWhile_append_dropWhile (p := Rune.isBlank) (l := runes front)
  refine ⟨ofRunes ((runes front).dropWhile Rune.isBlank),
    ⟨ofRunes ((runes front).takeWhile Rune.isBlank), ?_⟩,
    (runes front).takeWhile Rune.isBlank, (runes front).dropWhile Rune.isBlank ++ runes word, [],
    ?_, fun r hr => List.mem_takeWhile_imp hr, by simp, ?_, ?_, by simp⟩
  · rw [← ofRunes_append, hfront, ofRunes_runes]
  · rw [hsplit, ← List.append_assoc, hfront, List.append_nil]
  · intro r hr
    rw [List.head?_append, Option.mem_def, Option.or_eq_some_iff] at hr
    rcases hr with hr | ⟨_, hr⟩
    · have := List.head?_dropWhile_not Rune.isBlank (runes front)
      rw [hr] at this
      exact this
    · exact hclear r (List.mem_of_mem_head? hr)
  · intro r hr
    rw [List.getLast?_append_of_ne_nil _ hwne] at hr
    exact hclear r (List.mem_of_getLast? hr)

end Bytes

open Bytes

/-- A name that no other word byte stands before is the name of the call it opens. -/
theorem openCall_of_name {front name args : Bytes} (hfront : ∀ b ∈ front.getLast?, isWord b = false)
    (hname : isIdentifier name = true) (hargs : 0x28 ∉ args) :
    OpenCall (front ++ name ++ 0x28 :: args) name args := by
  obtain ⟨hne, hword⟩ : name ≠ [] ∧ ∀ b ∈ name, isWord b = true := by
    simpa [isIdentifier] using hname
  obtain ⟨rest, ⟨gone, rfl⟩, htrims⟩ := trims_append_word front hne hword
  refine ⟨gone ++ rest ++ name, rest ++ name, rfl, hargs, htrims, rest, rfl, hword, ?_⟩
  intro b hb
  rw [List.getLast?_append, hb] at hfront
  exact hfront b rfl

private theorem beforeCursor_append (front name args rest : Bytes) :
    CallContext.beforeCursor (front ++ name ++ args ++ rest)
      (front.length + name.length + args.length) = front ++ name ++ args := by
  have hlength : ((front.length + name.length + args.length : Int)).toNat =
      (front ++ name ++ args).length := by
    simp only [List.length_append]
    omega
  rw [CallContext.beforeCursor, hlength, List.take_left]

/-- What was put in for a function resolves to that function, with the arguments typed since. -/
theorem Catalog.Indexed.resolve_accepted {c : Catalog} (hc : c.Indexed) {i : Nat} {f : Function}
    (hf : c.functions[i]? = some f) {front args : Bytes} (rest : Bytes)
    (hfront : ∀ b ∈ front.getLast?, isWord b = false) (hargs : 0x28 ∉ args) :
    c.resolve (front ++ (Completion.ofFunction f).insertText ++ args ++ rest)
        (front.length + (Completion.ofFunction f).insertText.length + args.length) =
      some ⟨f, i, CallContext.activeParameter args⟩ := by
  have hname := hc.identifier f (List.mem_of_getElem? hf)
  have htyped : front ++ (Completion.ofFunction f).insertText ++ args =
      front ++ f.name ++ 0x28 :: args := by
    simp [Completion.ofFunction, show utf8 "(" = [0x28] from rfl]
  have hcall : CallContext.ofText? (front ++ f.name ++ 0x28 :: args) = some ⟨f.name, args⟩ :=
    CallContext.ofText?_eq_some.mpr (openCall_of_name hfront hname hargs)
  rw [Catalog.resolve, CallContext.at?, beforeCursor_append, htyped, hcall]
  exact hc.select_eq_some args hf

namespace Session

private theorem signatureHelp_resolved {c : Catalog} {line : Bytes} {offset : Int} {r : Resolution}
    (h : c.resolve line offset = some r) :
    ∃ records, (ofCatalog c).signatureHelp line offset =
      .ok (some ⟨c.functions.map .ofFunction, r.index, r.activeParameter⟩, records) := by
  simp only [signatureHelp, ofCatalog, Bool.false_eq_true, if_false, h]
  exact ⟨_, rfl⟩

/-- There is a suggestion for every function. Where one is accepted behind no word byte and
arguments are typed after it, help is shown on the function that was suggested, at the argument
that was reached. -/
theorem signatureHelp_of_accepted {fs : List Function} {c : Catalog}
    (hc : Catalog.ofFunctions fs = .ok c) :
    ∃ es, (ofCatalog c).completions = .ok es ∧ es.length = fs.length ∧
      ∀ (i : Nat) (e : Completion), es[i]? = some e → ∀ front args rest : Bytes,
        (∀ b ∈ front.getLast?, isWord b = false) → 0x28 ∉ args →
        ∃ h records,
          (ofCatalog c).signatureHelp (front ++ e.insertText ++ args ++ rest)
            (front.length + e.insertText.length + args.length) = .ok (some h, records) ∧
          h.activeSignature = i ∧ h.signatures[i]?.map SignatureInfo.label = some e.detail ∧
          h.activeParameter = CallContext.activeParameter args ∧
          (args = [] → h.activeParameter = 0) := by
  obtain ⟨rfl, hi⟩ := Catalog.ofFunctions_ok hc
  refine ⟨c.functions.map .ofFunction, rfl, List.length_map _, ?_⟩
  intro i e he front args rest hfront hargs
  obtain ⟨f, hf, rfl⟩ : ∃ f, c.functions[i]? = some f ∧ Completion.ofFunction f = e := by
    simpa using he
  obtain ⟨records, hh⟩ := signatureHelp_resolved (hi.resolve_accepted hf rest hfront hargs)
  refine ⟨_, records, hh, rfl, ?_, rfl, ?_⟩
  · simp [hf, SignatureInfo.ofFunction, Completion.ofFunction]
  · rintro rfl
    rfl

/-- The second of two functions accepted behind a broken character, with one comma typed. -/
theorem signatureHelp_of_accepted_second :
    let wait : Function := ⟨utf8 "wait", [utf8 "ms"], []⟩
    let beep : Function := ⟨utf8 "beep", [utf8 "hz", utf8 "ms"], utf8 "A tone."⟩
    let c : Catalog := ⟨[wait, beep], [(utf8 "beep", 1), (utf8 "wait", 0)]⟩
    Catalog.ofFunctions [wait, beep] = .ok c ∧
    ∃ h records, (ofCatalog c).signatureHelp
        ([0xE2, 0x82] ++ utf8 "beep(" ++ utf8 "440, " ++ utf8 ")") 12 = .ok (some h, records) ∧
      h.activeSignature = 1 ∧ h.activeParameter = 1 ∧
      h.signatures[1]?.map SignatureInfo.label = some (utf8 "beep(hz, ms)") := by
  intro wait beep c
  have hc : Catalog.ofFunctions [wait, beep] = .ok c := rfl
  obtain ⟨es, hes, _, hall⟩ := signatureHelp_of_accepted hc
  obtain rfl : [wait, beep].map Completion.ofFunction = es := Except.ok.inj hes
  obtain ⟨h, records, hh, hs, hl, hp, _⟩ := hall 1 (.ofFunction beep) rfl [0xE2, 0x82]
    (utf8 "440, ") (utf8 ")") (by decide +kernel) (by decide +kernel)
  have hinsert : (Completion.ofFunction beep).insertText = utf8 "beep(" := by decide +kernel
  have hoffset : ((([0xE2, 0x82] : Bytes).length + (utf8 "beep(").length +
      (utf8 "440, ").length : Nat) : Int) = 12 := by decide +kernel
  have hdetail : (Completion.ofFunction beep).detail = utf8 "beep(hz, ms)" := by decide +kernel
  have hcomma : CallContext.activeParameter (utf8 "440, ") = 1 := by decide +kernel
  rw [hinsert, ← Int.natCast_add, ← Int.natCast_add, hoffset] at hh
  rw [hdetail] at hl
  exact ⟨hc, h, records, hh, hs, hp.trans hcomma, hl⟩

end Session

end CallAssist
