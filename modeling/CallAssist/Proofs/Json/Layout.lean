import CallAssist.Proofs.Json.Spacing
import CallAssist.Proofs.Json.Strings

/-! JSON texts with a blank behind each comma and colon, and the values read from them. -/

namespace CallAssist

namespace Json

def quotes (t : Bytes) : Bytes := utf8 "\"" ++ t ++ utf8 "\""

def arrayText (ps : List Bytes) : Bytes := utf8 "[" ++ Bytes.join (utf8 ", ") ps ++ utf8 "]"

def fieldText (f : Bytes × Bytes) : Bytes := quotes f.1 ++ utf8 ": " ++ f.2

def objectText (fs : List (Bytes × Bytes)) : Bytes :=
  utf8 "\x7b" ++ Bytes.join (utf8 ", ") (fs.map fieldText) ++ utf8 "\x7d"

/-- A text that a value is read from, whatever follows it, where that many containers may be
open. -/
structure Spells (height : Nat) (t : Bytes) (v : Json) : Prop where
  starts : ∃ b ∈ t.head?, isSpace b = false ∧ b ≠ 0x5D
  reads : ∀ {fuel depth : Nat} {rest : Bytes}, height ≤ depth → 2 * t.length ≤ fuel →
    readValue fuel depth (t ++ rest) = some (v, rest)

variable {height : Nat} {t : Bytes} {v : Json}

theorem Spells.parse_eq (h : Spells height t v) (hd : height ≤ maxDepth) : parse t = some v := by
  have hread : readValue (2 * t.length + 2) maxDepth (t ++ []) = some (v, []) :=
    h.reads hd (by omega)
  rw [List.append_nil] at hread
  rw [parse, hread]
  rfl

theorem spells_null (height : Nat) : Spells height (utf8 "null") .null where
  starts := ⟨0x6E, rfl, rfl, by decide⟩
  reads {fuel depth rest} _ hf := by
    have hlen : (utf8 "null").length = 4 := rfl
    obtain ⟨fuel, rfl⟩ := Nat.exists_eq_add_one.mpr (by omega : 0 < fuel)
    rw [← readScalar_null]
    exact readValue_scalar rfl (by decide) (by decide) (by decide) fuel depth

private theorem quotes_append (t rest : Bytes) :
    quotes t ++ rest = 0x22 :: (t ++ 0x22 :: rest) := by
  have hq : utf8 "\"" = [0x22] := rfl
  simp [quotes, hq]

theorem spells_string (height : Nat) {body : Bytes} (h : Body body) :
    Spells height (quotes body) (.string body) where
  starts := ⟨0x22, rfl, rfl, by decide⟩
  reads {fuel depth rest} _ hf := by
    have hlen : 2 ≤ (quotes body).length := by
      rw [← List.append_nil (quotes body), quotes_append]
      simp
    obtain ⟨fuel, rfl⟩ := Nat.exists_eq_add_one.mpr (by omega : 0 < fuel)
    rw [quotes_append, readValue, skipSpace_cons rfl]
    simp [h.readBody_append]

/-- A plain text stands for itself. -/
theorem textOfBody_plain (h : ∀ b ∈ t, b < 0x80 ∧ b ≠ 0x5C) : textOfBody t = t := by
  have hpieces : pieceBytes (pieces t) = t := by
    induction t with
    | nil => rfl
    | cons b t ih =>
      obtain ⟨hb, ht⟩ := List.forall_mem_cons.mp h
      rw [pieces_plain hb.2, pieceBytes, ih ht]
  rw [textOfBody, hpieces]
  refine scrub_of_isUtf8 ?_
  rw [Bytes.isUtf8, Bytes.runes_of_ascii fun b hb => (h b hb).1, List.all_map]
  exact List.all_eq_true.mpr fun _ _ => rfl

private theorem fieldText_append (key t rest : Bytes) :
    fieldText (key, t) ++ rest = 0x22 :: (key ++ 0x22 :: 0x3A :: 0x20 :: (t ++ rest)) := by
  rw [fieldText, List.append_assoc, List.append_assoc, quotes_append]
  rfl

section Members

/-- A reader takes a member from its own text and tells by what follows whether to go on. -/
private structure Takes {α : Type} (close : UInt8) (read : Nat → Bytes → Option (List α × Bytes))
    (t : Bytes) (a : α) : Prop where
  starts : ∃ b ∈ t.head?, isSpace b = false ∧ b ≠ close
  last : ∀ {fuel : Nat} (rest : Bytes), 2 * t.length ≤ fuel →
    read (fuel + 1) (t ++ close :: rest) = some ([a], rest)
  more : ∀ {fuel : Nat} (rest : Bytes), 2 * t.length ≤ fuel →
    read (fuel + 1) (t ++ 0x2C :: 0x20 :: rest) =
      (read fuel rest).map fun (xs, r) => (a :: xs, r)

variable {α β : Type} {close : UInt8} {read : Nat → Bytes → Option (List α × Bytes)}
  {text : β → Bytes} {value : β → α}

private theorem read_members {m : β} {ms : List β}
    (h : ∀ n ∈ m :: ms, Takes close read (text n) (value n)) (rest : Bytes) {fuel : Nat}
    (hf : 2 * (Bytes.join (utf8 ", ") ((m :: ms).map text)).length < fuel) :
    read fuel (Bytes.join (utf8 ", ") ((m :: ms).map text) ++ close :: rest) =
      some ((m :: ms).map value, rest) := by
  induction ms generalizing m fuel with
  | nil =>
    obtain ⟨fuel, rfl⟩ := Nat.exists_eq_add_one.mpr (Nat.zero_lt_of_lt hf)
    exact (h m List.mem_cons_self).last rest (Nat.lt_succ_iff.mp hf)
  | cons n ns ih =>
    obtain ⟨fuel, rfl⟩ := Nat.exists_eq_add_one.mpr (Nat.zero_lt_of_lt hf)
    obtain ⟨hm, hns⟩ := List.forall_mem_cons.mp h
    have hjoin : Bytes.join (utf8 ", ") ((m :: n :: ns).map text) =
        text m ++ 0x2C :: 0x20 :: Bytes.join (utf8 ", ") ((n :: ns).map text) :=
      List.append_assoc (text m) (utf8 ", ") _
    simp only [hjoin, List.length_append, List.length_cons] at hf
    rw [hjoin, List.append_assoc, List.cons_append, List.cons_append, hm.more _ (by omega),
      ih hns (by omega)]
    rfl

private theorem exists_read_members {m : β} {ms : List β}
    (h : ∀ n ∈ m :: ms, Takes close read (text n) (value n)) (rest : Bytes) {fuel : Nat}
    (hf : 2 * (Bytes.join (utf8 ", ") ((m :: ms).map text)).length < fuel) :
    ∃ b u, Bytes.join (utf8 ", ") ((m :: ms).map text) ++ close :: rest = b :: u ∧
      isSpace b = false ∧ b ≠ close ∧ read fuel (b :: u) = some ((m :: ms).map value, rest) := by
  obtain ⟨b, hb, hs, hc⟩ := (h m List.mem_cons_self).starts
  obtain ⟨u, hu⟩ := List.head?_eq_some_iff.mp hb
  have hread := read_members h rest hf
  rw [Bytes.join_eq_intercalate, List.map_cons, Bytes.intercalate_cons, hu] at hread ⊢
  exact ⟨b, _, rfl, hs, hc, hread⟩

end Members

section Blanks

private theorem isSpace_blank : ∀ b ∈ [(0x20 : UInt8)], isSpace b = true := by
  intro b hb
  rw [List.mem_singleton.mp hb]
  rfl

private theorem readValue_blank (fuel depth : Nat) (t : Bytes) :
    readValue fuel depth (0x20 :: t) = readValue fuel depth t :=
  readValue_space isSpace_blank fuel depth t

private theorem readItems_blank (fuel depth : Nat) (t : Bytes) :
    readItems fuel depth (0x20 :: t) = readItems fuel depth t :=
  readItems_space isSpace_blank fuel depth t

private theorem readFields_blank (fuel depth : Nat) (t : Bytes) :
    readFields fuel depth (0x20 :: t) = readFields fuel depth t :=
  readFields_space isSpace_blank fuel depth t

end Blanks

private theorem Spells.takes_item (h : Spells height t v) {depth : Nat} (hd : height ≤ depth) :
    Takes 0x5D (readItems · depth) t v where
  starts := h.starts
  last {fuel} rest hf := by
    simp only [readItems, h.reads hd hf, skipSpace_cons (b := 0x5D) rfl]
  more {fuel} rest hf := by
    simp only [readItems, h.reads hd hf, skipSpace_cons (b := 0x2C) rfl, readItems_blank]

private theorem Spells.takes_field (h : Spells height t v) {key : Bytes} (hk : Body key)
    {depth : Nat} (hd : height ≤ depth) :
    Takes 0x7D (readFields · depth) (fieldText (key, t)) (key, v) := by
  have hlen : t.length ≤ (fieldText (key, t)).length := by
    rw [fieldText, List.length_append]
    exact Nat.le_add_left _ _
  refine ⟨⟨0x22, rfl, rfl, by decide⟩, fun {fuel} rest hf => ?_, fun {fuel} rest hf => ?_⟩
  · simp only [fieldText_append, readFields, skipSpace_cons (b := 0x22) rfl, hk.readBody_append,
      skipSpace_cons (b := 0x3A) rfl, readValue_blank, h.reads hd (by omega : 2 * t.length ≤ fuel),
      skipSpace_cons (b := 0x7D) rfl]
  · simp only [fieldText_append, readFields, skipSpace_cons (b := 0x22) rfl, hk.readBody_append,
      skipSpace_cons (b := 0x3A) rfl, readValue_blank, h.reads hd (by omega : 2 * t.length ≤ fuel),
      skipSpace_cons (b := 0x2C) rfl, readFields_blank]

private theorem arrayText_append (ps : List Bytes) (rest : Bytes) :
    arrayText ps ++ rest = 0x5B :: (Bytes.join (utf8 ", ") ps ++ 0x5D :: rest) := by
  rw [arrayText, List.append_assoc, List.append_assoc]
  rfl

private theorem objectText_append (fs : List (Bytes × Bytes)) (rest : Bytes) :
    objectText fs ++ rest =
      0x7B :: (Bytes.join (utf8 ", ") (fs.map fieldText) ++ 0x7D :: rest) := by
  rw [objectText, List.append_assoc, List.append_assoc]
  rfl

theorem spells_array {α : Type} {xs : List α} {text : α → Bytes} {value : α → Json}
    (h : ∀ x ∈ xs, Spells height (text x) (value x)) :
    Spells (height + 1) (arrayText (xs.map text)) (.array (xs.map value)) where
  starts := ⟨0x5B, rfl, rfl, by decide⟩
  reads {fuel depth rest} hd hf := by
    have hlen := congrArg List.length (arrayText_append (xs.map text) [])
    simp only [List.append_nil, List.length_cons, List.length_append, List.length_nil] at hlen
    obtain ⟨fuel, rfl⟩ := Nat.exists_eq_add_one.mpr (by omega : 0 < fuel)
    rw [arrayText_append, readValue, skipSpace_cons rfl]
    simp only [if_neg (by omega : depth ≠ 0)]
    cases xs with
    | nil =>
      rw [List.map_nil, Bytes.join, List.nil_append, skipSpace_cons rfl]
      rfl
    | cons x xs =>
      obtain ⟨b, u, hu, hs, hc, hread⟩ := exists_read_members
        (fun y hy => (h y hy).takes_item (by omega : height ≤ depth - 1)) rest
        (by omega : _ < fuel)
      rw [hu, skipSpace_cons hs]
      simp [hc, hread]

theorem spells_object {α : Type} {fs : List α} {key text : α → Bytes} {value : α → Json}
    (hk : ∀ f ∈ fs, Body (key f)) (h : ∀ f ∈ fs, Spells height (text f) (value f)) :
    Spells (height + 1) (objectText (fs.map fun f => (key f, text f)))
      (.object (fs.map fun f => (key f, value f))) where
  starts := ⟨0x7B, rfl, rfl, by decide⟩
  reads {fuel depth rest} hd hf := by
    have hlen := congrArg List.length (objectText_append (fs.map fun f => (key f, text f)) [])
    simp only [List.append_nil, List.length_cons, List.length_append, List.length_nil] at hlen
    obtain ⟨fuel, rfl⟩ := Nat.exists_eq_add_one.mpr (by omega : 0 < fuel)
    rw [objectText_append, readValue, skipSpace_cons rfl]
    simp only [if_neg (by omega : depth ≠ 0)]
    cases fs with
    | nil =>
      rw [List.map_nil, List.map_nil, Bytes.join, List.nil_append, skipSpace_cons rfl]
      rfl
    | cons f fs =>
      rw [List.map_map, Function.comp_def] at hlen ⊢
      obtain ⟨b, u, hu, hs, hc, hread⟩ := exists_read_members
        (fun g hg => (h g hg).takes_field (hk g hg) (by omega : height ≤ depth - 1)) rest
        (by omega : _ < fuel)
      rw [hu, skipSpace_cons hs]
      simp [hc, hread]

end Json

end CallAssist
