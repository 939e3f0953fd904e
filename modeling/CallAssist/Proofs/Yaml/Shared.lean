import CallAssist.Proofs.Json.Layout
import CallAssist.Proofs.Yaml.Trees

/-! Texts that are JSON and YAML at once: values in brackets and quotes, with a blank behind each
comma and colon. -/

namespace CallAssist

def isPlainByte (b : UInt8) : Bool := Yaml.isPrintable b && b != 0x22 && b != 0x5C

/-- A printable text that can be put in quotes as it is. -/
structure PlainText where
  bytes : Bytes
  plain : bytes.all isPlainByte = true
  deriving DecidableEq, Repr

section Plain

variable {t : Bytes}

private theorem isPlainByte_parts {b : UInt8} (h : isPlainByte b = true) :
    Yaml.isPrintable b = true ∧ b ≠ 0x22 ∧ b ≠ 0x5C := by
  simpa [isPlainByte, and_assoc] using h

private theorem printable_of_plain (h : t.all isPlainByte = true) :
    ∀ b ∈ t, Yaml.isPrintable b = true :=
  fun b hb => (isPlainByte_parts (List.all_eq_true.mp h b hb)).1

theorem Json.textOfBody_of_plain (h : t.all isPlainByte = true) : Json.textOfBody t = t := by
  refine Json.textOfBody_plain fun b hb => ?_
  obtain ⟨hp, _, he⟩ := isPlainByte_parts (List.all_eq_true.mp h b hb)
  refine ⟨?_, he⟩
  simp only [Yaml.isPrintable, Bool.and_eq_true, decide_eq_true_eq] at hp
  exact UInt8.lt_of_le_of_lt hp.2 (by decide)

private theorem body_of_plain (h : t.all isPlainByte = true) : Json.Body t := by
  refine Json.body_of_isPlain (List.all_eq_true.mpr fun b hb => ?_)
  obtain ⟨hp, hq, he⟩ := isPlainByte_parts (List.all_eq_true.mp h b hb)
  simp only [Yaml.isPrintable, Bool.and_eq_true, decide_eq_true_eq] at hp
  simpa [Json.isPlain, hq, he] using hp.1

private theorem quotable_of_plain (h : t.all isPlainByte = true) :
    ∀ x ∈ t.map Yaml.charOf, Yaml.isQuotable x = true := by
  intro x hx
  obtain ⟨b, hb, rfl⟩ := List.mem_map.mp hx
  obtain ⟨hp, hq, he⟩ := isPlainByte_parts (List.all_eq_true.mp h b hb)
  obtain ⟨_, hbreak, _, hbytes⟩ := Yaml.charOf_printable hp
  have hne (y : Char) {c : UInt8} (hy : String.utf8EncodeChar y = [c]) (hc : b ≠ c) :
      Yaml.charOf b ≠ y := by
    rintro rfl
    exact hc (List.singleton_inj.mp (hbytes.symm.trans hy))
  have htab : b ≠ 0x09 := by
    rintro rfl
    cases hp
  simp [Yaml.isQuotable, hbreak, hne '\t' rfl htab, hne '"' rfl hq, hne '\\' rfl he]

end Plain

/-- A text that is a JSON value and a YAML node at once, with at least so many containers around it
and at most so many in it. -/
structure Shared (outer inner : Nat) (t : Bytes) (v : Json) (n : Yaml.Node) : Prop where
  printable : ∀ b ∈ t, Yaml.isPrintable b = true
  spells : Json.Spells inner t v
  composes : ∃ ts, Yaml.Composes ts n ∧
    ∀ {depth : Nat} {allowed : Bool}, outer ≤ depth → depth + inner ≤ Yaml.maxNesting →
      Yaml.Scanner.Lexes depth allowed (t.map Yaml.charOf) ts

namespace Shared

variable {outer inner : Nat} {t : Bytes} {v : Json} {n : Yaml.Node}

theorem json_parse (h : Shared outer inner t v n) (hi : inner ≤ Json.maxDepth) :
    Json.parse t = some v := h.spells.parse_eq hi

theorem yaml_parse (h : Shared 0 inner t v n) (hi : inner ≤ Yaml.maxNesting) :
    Yaml.parse t = .ok n := by
  obtain ⟨ts, hc, hl⟩ := h.composes
  exact Yaml.parse_eq h.printable (hl (Nat.zero_le 0) (by omega)) hc

end Shared

variable {inner : Nat} {t : Bytes}

def Yaml.nullNode : Yaml.Node := .scalar Yaml.Tag.null (utf8 "null")

private theorem shared_null (inner : Nat) :
    Shared 1 inner (utf8 "null") .null Yaml.nullNode where
  printable := List.all_eq_true.mp rfl
  spells := Json.spells_null inner
  composes := by
    refine ⟨_, Yaml.composes_scalar true (utf8 "null"), fun {depth allowed} ho _ => ?_⟩
    obtain ⟨depth, rfl⟩ := Nat.exists_eq_add_one.mpr ho
    exact Yaml.Scanner.lexes_null

private theorem map_quotes (t : Bytes) :
    (Json.quotes t).map Yaml.charOf = '"' :: (t.map Yaml.charOf ++ ['"']) := by
  rw [Json.quotes, List.map_append, List.map_append]
  rfl

private theorem printable_quotes (h : ∀ b ∈ t, Yaml.isPrintable b = true) :
    ∀ b ∈ Json.quotes t, Yaml.isPrintable b = true := by
  simp only [Json.quotes, List.forall_mem_append]
  exact ⟨⟨List.all_eq_true.mp rfl, h⟩, List.all_eq_true.mp rfl⟩

theorem shared_text (outer inner : Nat) (t : PlainText) :
    Shared outer inner (Json.quotes t.bytes) (.string t.bytes)
      (.scalar Yaml.Tag.string t.bytes) where
  printable := printable_quotes (printable_of_plain t.plain)
  spells := Json.spells_string inner (body_of_plain t.plain)
  composes := by
    refine ⟨_, Yaml.composes_scalar false t.bytes, fun {depth allowed} _ _ => ?_⟩
    have hlexes : Yaml.Scanner.Lexes depth allowed _ _ :=
      Yaml.Scanner.lexes_quoted (quotable_of_plain t.plain)
    rwa [Yaml.ofChars_map_charOf (printable_of_plain t.plain), ← map_quotes] at hlexes

/-- A value that may be null. -/
theorem shared_option {α : Type} {text : α → Bytes} {json : α → Json} {node : α → Yaml.Node}
    (h : ∀ x, Shared 1 inner (text x) (json x) (node x)) {o : Option α} :
    Shared 1 inner (o.elim (utf8 "null") text) (o.elim .null json) (o.elim Yaml.nullNode node) := by
  cases o with
  | none => exact shared_null inner
  | some x => exact h x

section Collections

private theorem map_arrayText (ps : List Bytes) : (Json.arrayText ps).map Yaml.charOf =
    '[' :: ([',', ' '].intercalate (ps.map (List.map Yaml.charOf)) ++ [']']) := by
  rw [Json.arrayText, List.map_append, List.map_append, Bytes.map_join]
  rfl

private theorem map_fieldText (key t : Bytes) : (Json.fieldText (key, t)).map Yaml.charOf =
    '"' :: (key.map Yaml.charOf ++ '"' :: ':' :: ' ' :: t.map Yaml.charOf) := by
  rw [Json.fieldText, List.map_append, List.map_append, map_quotes, List.cons_append,
    List.append_assoc, List.cons_append, List.append_assoc]
  rfl

private theorem map_objectText (fs : List (Bytes × Bytes)) :
    (Json.objectText fs).map Yaml.charOf = '\x7b' :: ([',', ' '].intercalate
      ((fs.map Json.fieldText).map (List.map Yaml.charOf)) ++ ['\x7d']) := by
  rw [Json.objectText, List.map_append, List.map_append, Bytes.map_join]
  rfl

variable {α : Type} {xs : List α} {text : α → Bytes} {json : α → Json} {node : α → Yaml.Node}

theorem shared_array (outer : Nat) (h : ∀ x ∈ xs, Shared 1 inner (text x) (json x) (node x)) :
    Shared outer (inner + 1) (Json.arrayText (xs.map text)) (.array (xs.map json))
      (.sequence Yaml.Tag.sequence (xs.map node)) where
  printable := by
    have hjoin : ∀ b ∈ Bytes.join (utf8 ", ") (xs.map text), Yaml.isPrintable b = true :=
      Bytes.forall_mem_join (List.all_eq_true.mp rfl)
        (List.forall_mem_map.mpr fun x hx => (h x hx).printable)
    simp only [Json.arrayText, List.forall_mem_append]
    exact ⟨⟨List.all_eq_true.mp rfl, hjoin⟩, List.all_eq_true.mp rfl⟩
  spells := Json.spells_array fun x hx => (h x hx).spells
  composes := by
    choose! ts hc hl using fun x hx => (h x hx).composes
    refine ⟨_, Yaml.composes_sequence hc, fun {depth allowed} _ hd => ?_⟩
    have hlexes : Yaml.Scanner.Lexes depth allowed _ _ :=
      Yaml.Scanner.lexes_collection .sequence (by omega) fun x hx =>
        hl x hx (by omega : 1 ≤ depth + 1) (by omega)
    rw [map_arrayText, List.map_map]
    exact hlexes

theorem shared_object (outer : Nat) {key : α → Bytes}
    (hkey : ∀ x ∈ xs, (key x).all isPlainByte = true ∧ (key x).length + 2 ≤ 1024)
    (h : ∀ x ∈ xs, Shared 1 inner (text x) (json x) (node x)) :
    Shared outer (inner + 1) (Json.objectText (xs.map fun x => (key x, text x)))
      (.object (xs.map fun x => (key x, json x)))
      (.mapping Yaml.Tag.mapping (xs.map fun x => (.scalar Yaml.Tag.string (key x), node x))) where
  printable := by
    have hfields : ∀ t ∈ (xs.map fun x => (key x, text x)).map Json.fieldText,
        ∀ b ∈ t, Yaml.isPrintable b = true := by
      rw [List.map_map]
      refine List.forall_mem_map.mpr fun x hx => ?_
      simp only [Function.comp, Json.fieldText, List.forall_mem_append]
      exact ⟨⟨printable_quotes (printable_of_plain (hkey x hx).1), List.all_eq_true.mp rfl⟩,
        (h x hx).printable⟩
    have hseparator : ∀ b ∈ utf8 ", ", Yaml.isPrintable b = true := List.all_eq_true.mp rfl
    have hjoin := Bytes.forall_mem_join hseparator hfields
    simp only [Json.objectText, List.forall_mem_append]
    exact ⟨⟨List.all_eq_true.mp rfl, hjoin⟩, List.all_eq_true.mp rfl⟩
  spells := Json.spells_object (fun x hx => body_of_plain (hkey x hx).1) fun x hx => (h x hx).spells
  composes := by
    choose! ts hc hl using fun x hx => (h x hx).composes
    refine ⟨_, Yaml.composes_mapping hc, fun {depth allowed} _ hd => ?_⟩
    have hfield (x : α) (hx : x ∈ xs) : Yaml.Scanner.Lexes (depth + 1) true
        ((Json.fieldText (key x, text x)).map Yaml.charOf) (Yaml.fieldTokens (key x) (ts x)) := by
      obtain ⟨hplain, hlength⟩ := hkey x hx
      have hlexes := Yaml.Scanner.lexes_field (quotable_of_plain hplain)
        (by rwa [List.length_map]) (hl x hx (by omega : 1 ≤ depth + 1) (by omega))
      rwa [Yaml.ofChars_map_charOf (printable_of_plain hplain), ← map_fieldText] at hlexes
    have hlexes : Yaml.Scanner.Lexes depth allowed _ _ :=
      Yaml.Scanner.lexes_collection .mapping (by omega) hfield
    rw [map_objectText, List.map_map, List.map_map]
    exact hlexes

end Collections

end CallAssist
