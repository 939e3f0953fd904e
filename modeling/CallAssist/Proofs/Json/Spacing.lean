import CallAssist.Proofs.Json.Values

/-!
JSON texts with white space between their parts. Whether a value is written on one line or on many,
it is read from its text again, with its strings guarded.
-/

namespace CallAssist

namespace Json

/-- White space for a text: what stands in front of each member and of the end of a container that
is nested so deep, and what stands behind a colon. -/
structure Spacing where
  line : Nat → Bytes
  colon : Bytes
  isSpace_line : ∀ level, ∀ b ∈ line level, isSpace b = true
  isSpace_colon : ∀ b ∈ colon, isSpace b = true

mutual

/-- A value with white space between its parts; an empty container stays closed. -/
def laid (s : Spacing) (level : Nat) : Json → Bytes
  | .array [] => utf8 "[]"
  | .array xs => [0x5B] ++ laidItems s (level + 1) xs ++ s.line level ++ [0x5D]
  | .object [] => utf8 "\x7b\x7d"
  | .object fs => [0x7B] ++ laidFields s (level + 1) fs ++ s.line level ++ [0x7D]
  | .null => utf8 "null"
  | .bool b => if b then utf8 "true" else utf8 "false"
  | .number ds => ds
  | .string body => writeBody body

def laidItems (s : Spacing) (level : Nat) : List Json → Bytes
  | [] => []
  | [x] => s.line level ++ laid s level x
  | x :: xs => s.line level ++ laid s level x ++ [0x2C] ++ laidItems s level xs

def laidFields (s : Spacing) (level : Nat) : List (Bytes × Json) → Bytes
  | [] => []
  | [(k, v)] => s.line level ++ writeBody k ++ [0x3A] ++ s.colon ++ laid s level v
  | (k, v) :: fs =>
    s.line level ++ writeBody k ++ [0x3A] ++ s.colon ++ laid s level v ++ [0x2C] ++
      laidFields s level fs

end

def Spacing.none : Spacing := ⟨fun _ => [], [], by simp, by simp⟩

def Spacing.lines : Spacing where
  line := newline
  colon := [0x20]
  isSpace_line level b hb := by
    rcases List.mem_cons.mp hb with rfl | hb
    · rfl
    · rw [List.eq_of_mem_replicate hb]
      rfl
  isSpace_colon b hb := by
    rw [List.mem_singleton.mp hb]
    rfl

@[simp]
theorem Spacing.none_line (level : Nat) : Spacing.none.line level = [] := rfl

@[simp]
theorem Spacing.none_colon : Spacing.none.colon = [] := rfl

@[simp]
theorem Spacing.lines_line (level : Nat) : Spacing.lines.line level = newline level := rfl

@[simp]
theorem Spacing.lines_colon : Spacing.lines.colon = [0x20] := rfl

mutual

theorem laid_none (level : Nat) : ∀ v : Json, laid .none level v = write v
  | .null => by rw [laid, write]
  | .bool b => by rw [laid, write]
  | .number ds => by rw [laid, write]
  | .string body => by rw [laid, write]
  | .array [] => rfl
  | .array (x :: xs) => by simp [laid, write, laidItems_none (level + 1) (x :: xs)]
  | .object [] => rfl
  | .object (f :: fs) => by
    simp [laid, write, laidFields_none (level + 1) (f :: fs)]

theorem laidItems_none (level : Nat) : ∀ xs : List Json, laidItems .none level xs = writeItems xs
  | [] => rfl
  | [x] => by simp [laidItems, writeItems, laid_none level x]
  | x :: y :: ys => by
    simp [laidItems, writeItems, laid_none level x, laidItems_none level (y :: ys)]

theorem laidFields_none (level : Nat) : ∀ fs : List (Bytes × Json),
    laidFields .none level fs = writeFields fs
  | [] => rfl
  | [(k, v)] => by simp [laidFields, writeFields, laid_none level v]
  | (k, v) :: f :: fs => by
    simp [laidFields, writeFields, laid_none level v, laidFields_none level (f :: fs)]

end

mutual

theorem laid_lines (level : Nat) : ∀ v : Json, laid .lines level v = indented level v
  | .null => by rw [laid, indented]
  | .bool b => by rw [laid, indented]
  | .number ds => by rw [laid, indented]
  | .string body => by rw [laid, indented]
  | .array [] => rfl
  | .array (x :: xs) => by
    simp [laid, indented, laidItems_lines (level + 1) (x :: xs)]
  | .object [] => rfl
  | .object (f :: fs) => by
    simp [laid, indented, laidFields_lines (level + 1) (f :: fs)]

theorem laidItems_lines (level : Nat) : ∀ xs : List Json,
    laidItems .lines level xs = indentedItems level xs
  | [] => rfl
  | [x] => by simp [laidItems, indentedItems, laid_lines level x]
  | x :: y :: ys => by
    simp [laidItems, indentedItems, laid_lines level x,
      laidItems_lines level (y :: ys)]

theorem laidFields_lines (level : Nat) : ∀ fs : List (Bytes × Json),
    laidFields .lines level fs = indentedFields level fs
  | [] => rfl
  | [(k, v)] => by simp [laidFields, indentedFields, laid_lines level v]
  | (k, v) :: f :: fs => by
    simp [laidFields, indentedFields, laid_lines level v,
      laidFields_lines level (f :: fs)]

end

section Scalars

theorem skipSpace_cons {b : UInt8} (h : isSpace b = false) (t : Bytes) :
    skipSpace (b :: t) = b :: t := by
  simp [skipSpace, h]

theorem readScalar_null (r : Bytes) : readScalar (utf8 "null" ++ r) = some (.null, r) := by
  rw [readScalar, Bytes.dropFront?_append]

private theorem readScalar_true (r : Bytes) :
    readScalar (utf8 "true" ++ r) = some (.bool true, r) := by
  have hn : Bytes.dropFront? (utf8 "null") (utf8 "true" ++ r) = none :=
    Bytes.dropFront?_of_ne (by decide) _ _
  rw [readScalar, hn, Bytes.dropFront?_append]

private theorem readScalar_false (r : Bytes) :
    readScalar (utf8 "false" ++ r) = some (.bool false, r) := by
  have hn : Bytes.dropFront? (utf8 "null") (utf8 "false" ++ r) = none :=
    Bytes.dropFront?_of_ne (by decide) _ _
  have ht : Bytes.dropFront? (utf8 "true") (utf8 "false" ++ r) = none :=
    Bytes.dropFront?_of_ne (by decide) _ _
  rw [readScalar, hn, ht, Bytes.dropFront?_append]

private theorem readScalar_number {n r : Bytes} (hn : IsNumber n) (hr : EndsNumber r) :
    readScalar (n ++ r) = some (.number n, r) := by
  obtain ⟨b, t, rfl, hb⟩ := hn.head
  have hne {a : UInt8} (ha : ¬ (a = 0x2D ∨ Bytes.isDigit a = true)) : a ≠ b := by
    rintro rfl
    exact ha hb
  have h1 : Bytes.dropFront? (utf8 "null") (b :: t ++ r) = none :=
    Bytes.dropFront?_of_ne (hne (by decide)) _ _
  have h2 : Bytes.dropFront? (utf8 "true") (b :: t ++ r) = none :=
    Bytes.dropFront?_of_ne (hne (by decide)) _ _
  have h3 : Bytes.dropFront? (utf8 "false") (b :: t ++ r) = none :=
    Bytes.dropFront?_of_ne (hne (by decide)) _ _
  rw [readScalar, h1, h2, h3, hn.readNumber_append hr]
  rfl

/-- Words and numbers are told by their first byte. -/
theorem readValue_scalar {b : UInt8} {t : Bytes} (hs : isSpace b = false) (hq : b ≠ 0x22)
    (ha : b ≠ 0x5B) (ho : b ≠ 0x7B) (fuel depth : Nat) :
    readValue (fuel + 1) depth (b :: t) = readScalar (b :: t) := by
  rw [readValue, skipSpace_cons hs]
  split
  · next h => exact absurd (List.cons.inj h).1 hq
  · next h => exact absurd (List.cons.inj h).1 ha
  · next h => exact absurd (List.cons.inj h).1 ho
  · rfl

end Scalars

section Spaces

variable {ws : Bytes}

theorem skipSpace_append (h : ∀ b ∈ ws, isSpace b = true) (t : Bytes) :
    skipSpace (ws ++ t) = skipSpace t := List.dropWhile_append_of_pos h

theorem readValue_space (h : ∀ b ∈ ws, isSpace b = true) (fuel depth : Nat) (t : Bytes) :
    readValue fuel depth (ws ++ t) = readValue fuel depth t := by
  cases fuel with
  | zero => rfl
  | succ fuel => rw [readValue, readValue, skipSpace_append h]

theorem readItems_space (h : ∀ b ∈ ws, isSpace b = true) (fuel depth : Nat) (t : Bytes) :
    readItems fuel depth (ws ++ t) = readItems fuel depth t := by
  cases fuel with
  | zero => rfl
  | succ fuel => rw [readItems, readItems, readValue_space h]

theorem readFields_space (h : ∀ b ∈ ws, isSpace b = true) (fuel depth : Nat) (t : Bytes) :
    readFields fuel depth (ws ++ t) = readFields fuel depth t := by
  cases fuel with
  | zero => rfl
  | succ fuel => rw [readFields, readFields, skipSpace_append h]

private theorem endsNumber_cons {b : UInt8} (hd : Bytes.isDigit b = false) (hp : b ≠ 0x2E)
    (h1 : b ≠ 0x65) (h2 : b ≠ 0x45) (r : Bytes) : EndsNumber (b :: r) := by
  intro c hc
  obtain rfl : b = c := by simpa using hc
  exact ⟨hd, hp, h1, h2⟩

private theorem endsNumber_space {b : UInt8} (h : isSpace b = true) (r : Bytes) :
    EndsNumber (b :: r) := by
  simp only [isSpace, Bool.or_eq_true, beq_iff_eq] at h
  rcases h with ((rfl | rfl) | rfl) | rfl <;>
    exact endsNumber_cons rfl (by decide) (by decide) (by decide) r

private theorem endsNumber_append (h : ∀ b ∈ ws, isSpace b = true) {r : Bytes}
    (hr : EndsNumber r) : EndsNumber (ws ++ r) := by
  cases ws with
  | nil => exact hr
  | cons b ws => exact endsNumber_space (h b List.mem_cons_self) (ws ++ r)

end Spaces

section ReadingBack

variable {s : Spacing} {level depth fuel : Nat} {t r : Bytes}

private theorem Proper.head {v : Json} (h : Proper depth v) (s : Spacing) (level : Nat) :
    ∃ b t, laid s level v = b :: t ∧ isSpace b = false ∧ b ≠ 0x5D := by
  cases v with
  | null => exact ⟨0x6E, _, rfl, rfl, by decide⟩
  | bool b =>
    cases b with
    | true => exact ⟨0x74, _, rfl, rfl, by decide⟩
    | false => exact ⟨0x66, _, rfl, rfl, by decide⟩
  | number ds =>
    obtain ⟨b, t, rfl, hb⟩ := IsNumber.head h
    refine ⟨b, t, by rw [laid], ?_, ?_⟩
    · rw [← Bool.not_eq_true]
      intro hs
      simp only [isSpace, Bool.or_eq_true, beq_iff_eq] at hs
      rcases hs with ((rfl | rfl) | rfl) | rfl <;> simp [Bytes.isDigit] at hb
    · rintro rfl
      simp [Bytes.isDigit] at hb
  | string body => exact ⟨0x22, _, rfl, rfl, by decide⟩
  | array xs =>
    cases xs with
    | nil => exact ⟨0x5B, _, rfl, rfl, by decide⟩
    | cons x xs => exact ⟨0x5B, _, rfl, rfl, by decide⟩
  | object fs =>
    cases fs with
    | nil => exact ⟨0x7B, _, rfl, rfl, by decide⟩
    | cons f fs => exact ⟨0x7B, _, rfl, rfl, by decide⟩

/-- What is laid out is read again with so much fuel, in front of any text in which a number cannot
go on. -/
private structure ReadsBack (s : Spacing) (fuel : Nat) : Prop where
  value : ∀ (level : Nat) {depth v r}, Proper depth v → EndsNumber r →
    2 * (laid s level v).length ≤ fuel →
    readValue fuel depth (laid s level v ++ r) = some (guardedValue v, r)
  items : ∀ (level : Nat) {depth x xs t r}, ProperItems depth (x :: xs) → EndsNumber t →
    skipSpace t = 0x5D :: r → 2 * (laidItems s level (x :: xs)).length < fuel →
    readItems fuel depth (laidItems s level (x :: xs) ++ t) = some (guardedItems (x :: xs), r)
  fields : ∀ (level : Nat) {depth f fs t r}, ProperFields depth (f :: fs) → EndsNumber t →
    skipSpace t = 0x7D :: r → 2 * (laidFields s level (f :: fs)).length < fuel →
    readFields fuel depth (laidFields s level (f :: fs) ++ t) = some (guardedFields (f :: fs), r)

private theorem laidItems_cons (s : Spacing) (level : Nat) (x y : Json) (ys : List Json) :
    laidItems s level (x :: y :: ys) =
      s.line level ++ (laid s level x ++ 0x2C :: laidItems s level (y :: ys)) := by
  simp [laidItems]

private theorem laidFields_single (s : Spacing) (level : Nat) (k : Bytes) (v : Json) :
    laidFields s level [(k, v)] = s.line level ++
      0x22 :: (guarded k ++ 0x22 :: 0x3A :: (s.colon ++ laid s level v)) := by
  simp [laidFields, writeBody]

private theorem laidFields_cons (s : Spacing) (level : Nat) (k : Bytes) (v : Json)
    (f : Bytes × Json) (fs : List (Bytes × Json)) : laidFields s level ((k, v) :: f :: fs) =
      s.line level ++ 0x22 :: (guarded k ++ 0x22 :: 0x3A ::
        (s.colon ++ (laid s level v ++ 0x2C :: laidFields s level (f :: fs)))) := by
  simp [laidFields, writeBody]

private theorem laidItems_head {x : Json} {xs : List Json} (h : ProperItems depth (x :: xs))
    (s : Spacing) (level : Nat) : ∃ b t, laidItems s level (x :: xs) = s.line level ++ b :: t ∧
      isSpace b = false ∧ b ≠ 0x5D := by
  obtain ⟨b, t, hw, hs, hb⟩ := Proper.head h.1 s level
  cases xs with
  | nil => exact ⟨b, t, by rw [laidItems, hw], hs, hb⟩
  | cons y ys => exact ⟨b, _, by rw [laidItems_cons, hw]; rfl, hs, hb⟩

private theorem laidFields_head (s : Spacing) (level : Nat) (f : Bytes × Json)
    (fs : List (Bytes × Json)) :
    ∃ t, laidFields s level (f :: fs) = s.line level ++ 0x22 :: t := by
  obtain ⟨k, v⟩ := f
  cases fs with
  | nil => exact ⟨_, laidFields_single s level k v⟩
  | cons g gs => exact ⟨_, laidFields_cons s level k v g gs⟩

private theorem readValue_number {n : Bytes} (hn : IsNumber n) (hr : EndsNumber r)
    (fuel depth : Nat) : readValue (fuel + 1) depth (n ++ r) = some (.number n, r) := by
  rw [← readScalar_number hn hr]
  have hp : Proper depth (.number n) := hn
  obtain ⟨b, t, hw, hs, _⟩ := hp.head .none 0
  obtain rfl : n = b :: t := by rw [← hw, laid]
  have hb : b = 0x2D ∨ Bytes.isDigit b = true := by
    obtain ⟨b', t', he, hb⟩ := hn.head
    exact (List.cons.inj he).1 ▸ hb
  have hne {a : UInt8} (ha : ¬ (a = 0x2D ∨ Bytes.isDigit a = true)) : b ≠ a := by
    rintro rfl
    exact ha hb
  exact readValue_scalar hs (hne (by decide)) (hne (by decide)) (hne (by decide)) fuel depth

private theorem close_line (s : Spacing) (level : Nat) {b : UInt8} (hd : Bytes.isDigit b = false)
    (hp : b ≠ 0x2E) (h1 : b ≠ 0x65) (h2 : b ≠ 0x45) (hs : isSpace b = false) (r : Bytes) :
    EndsNumber (s.line level ++ b :: r) ∧ skipSpace (s.line level ++ b :: r) = b :: r := by
  refine ⟨endsNumber_append (s.isSpace_line level) (endsNumber_cons hd hp h1 h2 r), ?_⟩
  rw [skipSpace_append (s.isSpace_line level), skipSpace_cons hs]

private theorem ReadsBack.array (ih : ReadsBack s fuel) {xs : List Json} (r : Bytes)
    (hd : 0 < depth) (h : ProperItems (depth - 1) xs)
    (hf : 2 * (laid s level (.array xs)).length ≤ fuel + 1) :
    readValue (fuel + 1) depth (laid s level (.array xs) ++ r) =
      some (.array (guardedItems xs), r) := by
  cases xs with
  | nil =>
    rw [laid, readValue]
    simp only [if_neg (Nat.pos_iff_ne_zero.mp hd)]
    rfl
  | cons x xs =>
    have hw : laid s level (.array (x :: xs)) ++ r =
        0x5B :: (laidItems s (level + 1) (x :: xs) ++ (s.line level ++ 0x5D :: r)) := by
      simp [laid]
    have hlen : (laidItems s (level + 1) (x :: xs)).length + 2 ≤
        (laid s level (.array (x :: xs))).length := by
      simp [laid]
    obtain ⟨hends, hclose⟩ := close_line s level (b := 0x5D) rfl (by decide) (by decide)
      (by decide) rfl r
    have hread := ih.items (level + 1) h hends hclose (by omega)
    obtain ⟨b, t, hb, hs, hc⟩ := laidItems_head h s (level + 1)
    rw [hb, List.append_assoc, readItems_space (s.isSpace_line _), List.cons_append] at hread
    rw [hw, hb, List.append_assoc, readValue, skipSpace_cons rfl]
    simp only [if_neg (Nat.pos_iff_ne_zero.mp hd)]
    rw [skipSpace_append (s.isSpace_line _), List.cons_append, skipSpace_cons hs]
    simp [hc, hread]

private theorem ReadsBack.object (ih : ReadsBack s fuel) {fs : List (Bytes × Json)} (r : Bytes)
    (hd : 0 < depth) (h : ProperFields (depth - 1) fs)
    (hf : 2 * (laid s level (.object fs)).length ≤ fuel + 1) :
    readValue (fuel + 1) depth (laid s level (.object fs) ++ r) =
      some (.object (guardedFields fs), r) := by
  cases fs with
  | nil =>
    rw [laid, readValue]
    simp only [if_neg (Nat.pos_iff_ne_zero.mp hd)]
    rfl
  | cons f fs =>
    have hw : laid s level (.object (f :: fs)) ++ r =
        0x7B :: (laidFields s (level + 1) (f :: fs) ++ (s.line level ++ 0x7D :: r)) := by
      simp [laid]
    have hlen : (laidFields s (level + 1) (f :: fs)).length + 2 ≤
        (laid s level (.object (f :: fs))).length := by
      simp [laid]
    obtain ⟨hends, hclose⟩ := close_line s level (b := 0x7D) rfl (by decide) (by decide)
      (by decide) rfl r
    have hread := ih.fields (level + 1) h hends hclose (by omega)
    obtain ⟨t, ht⟩ := laidFields_head s (level + 1) f fs
    rw [ht, List.append_assoc, readFields_space (s.isSpace_line _), List.cons_append] at hread
    rw [hw, ht, List.append_assoc, readValue, skipSpace_cons rfl]
    simp only [if_neg (Nat.pos_iff_ne_zero.mp hd)]
    rw [skipSpace_append (s.isSpace_line _), List.cons_append, skipSpace_cons rfl]
    simp [hread]

private theorem ReadsBack.value_succ (ih : ReadsBack s fuel) {v : Json} (h : Proper depth v)
    (hr : EndsNumber r) (hf : 2 * (laid s level v).length ≤ fuel + 1) :
    readValue (fuel + 1) depth (laid s level v ++ r) = some (guardedValue v, r) := by
  cases v with
  | null =>
    exact (readValue_scalar (b := 0x6E) rfl (by decide) (by decide) (by decide) _ _).trans
      (readScalar_null r)
  | bool b =>
    cases b with
    | true =>
      exact (readValue_scalar (b := 0x74) rfl (by decide) (by decide) (by decide) _ _).trans
        (readScalar_true r)
    | false =>
      exact (readValue_scalar (b := 0x66) rfl (by decide) (by decide) (by decide) _ _).trans
        (readScalar_false r)
  | number ds =>
    rw [laid]
    exact readValue_number h hr fuel depth
  | string body =>
    have hw : laid s level (.string body) ++ r = 0x22 :: (guarded body ++ 0x22 :: r) := by
      simp [laid, writeBody]
    rw [hw, readValue, skipSpace_cons rfl]
    simp [Body.readBody_append (Body.guarded h), guardedValue]
  | array xs => exact ih.array r h.1 h.2 hf
  | object fs => exact ih.object r h.1 h.2 hf

private theorem endsNumber_comma (r : Bytes) : EndsNumber (0x2C :: r) :=
  endsNumber_cons rfl (by decide) (by decide) (by decide) r

private theorem ReadsBack.items_succ (ih : ReadsBack s fuel) {x : Json} {xs : List Json}
    (h : ProperItems depth (x :: xs)) (ht : EndsNumber t) (hclose : skipSpace t = 0x5D :: r)
    (hf : 2 * (laidItems s level (x :: xs)).length < fuel + 1) :
    readItems (fuel + 1) depth (laidItems s level (x :: xs) ++ t) =
      some (guardedItems (x :: xs), r) := by
  cases xs with
  | nil =>
    have hread := ih.value level h.1 ht
    rw [laidItems, List.length_append] at hf
    rw [laidItems, List.append_assoc, readItems_space (s.isSpace_line level)]
    simp only [readItems, hread (by omega), hclose]
    rfl
  | cons y ys =>
    have hread := ih.value level (r := 0x2C :: (laidItems s level (y :: ys) ++ t)) h.1
      (endsNumber_comma _)
    have hrest := ih.items level h.2 ht hclose
    rw [laidItems_cons] at hf ⊢
    simp only [List.length_append, List.length_cons] at hf
    rw [List.append_assoc, readItems_space (s.isSpace_line level), List.append_assoc,
      List.cons_append]
    simp only [readItems, hread (by omega), skipSpace_cons (b := 0x2C) rfl, hrest (by omega)]
    rfl

private theorem ReadsBack.fields_succ (ih : ReadsBack s fuel) {f : Bytes × Json}
    {fs : List (Bytes × Json)} (h : ProperFields depth (f :: fs)) (ht : EndsNumber t)
    (hclose : skipSpace t = 0x7D :: r) (hf : 2 * (laidFields s level (f :: fs)).length < fuel + 1) :
    readFields (fuel + 1) depth (laidFields s level (f :: fs) ++ t) =
      some (guardedFields (f :: fs), r) := by
  obtain ⟨k, v⟩ := f
  obtain ⟨hk, hv, hfs⟩ := h
  have hkey (u : Bytes) := hk.guarded.readBody_append u
  have hcolon (u : Bytes) := readValue_space s.isSpace_colon fuel depth u
  cases fs with
  | nil =>
    have hread := ih.value level hv ht
    rw [laidFields_single] at hf ⊢
    simp only [List.length_append, List.length_cons] at hf
    rw [List.append_assoc, readFields_space (s.isSpace_line level)]
    simp only [List.cons_append, List.append_assoc, readFields, skipSpace_cons (b := 0x22) rfl,
      hkey, skipSpace_cons (b := 0x3A) rfl, hcolon, hread (by omega), hclose]
    rfl
  | cons g gs =>
    have hread := ih.value level (r := 0x2C :: (laidFields s level (g :: gs) ++ t)) hv
      (endsNumber_comma _)
    have hrest := ih.fields level hfs ht hclose
    rw [laidFields_cons] at hf ⊢
    simp only [List.length_append, List.length_cons] at hf
    rw [List.append_assoc, readFields_space (s.isSpace_line level)]
    simp only [List.cons_append, List.append_assoc, readFields, skipSpace_cons (b := 0x22) rfl,
      hkey, skipSpace_cons (b := 0x3A) rfl, hcolon, hread (by omega),
      skipSpace_cons (b := 0x2C) rfl, hrest (by omega)]
    rfl

private theorem readsBack (s : Spacing) (fuel : Nat) : ReadsBack s fuel := by
  induction fuel with
  | zero =>
    refine ⟨?_, fun _ _ _ _ h => by omega, fun _ _ _ _ h => by omega⟩
    intro level depth v r h _ hf
    obtain ⟨b, t, hw, _⟩ := Proper.head h s level
    rw [hw] at hf
    simp at hf
  | succ fuel ih =>
    exact ⟨fun _ => ih.value_succ, fun _ => ih.items_succ, fun _ => ih.fields_succ⟩

/-- A well-formed value is read from its text, whatever white space is in it and behind it. -/
theorem parse_laid {v : Json} (h : Proper maxDepth v) (s : Spacing) (level : Nat) (ws : Bytes)
    (hws : ∀ b ∈ ws, isSpace b = true) : parse (laid s level v ++ ws) = some (guardedValue v) := by
  have hr : EndsNumber ws := by
    have hnil : EndsNumber [] := fun b hb => by cases hb
    simpa using endsNumber_append hws hnil
  have hread := (readsBack s (2 * (laid s level v ++ ws).length + 2)).value level h hr
    (by rw [List.length_append]; omega)
  have hskip : skipSpace ws = [] := by
    rw [← List.append_nil ws, skipSpace_append hws]
    rfl
  rw [parse, hread]
  simp [hskip]

/-- A well-formed value is read from what is written of it. -/
theorem parse_write {v : Json} (h : Proper maxDepth v) :
    parse (write v) = some (guardedValue v) := by
  have hread := parse_laid h .none 0 [] fun b hb => by cases hb
  rwa [laid_none, List.append_nil] at hread

/-- A well-formed value is read from a print of it. -/
theorem parse_indented {v : Json} (h : Proper maxDepth v) (level : Nat) {ws : Bytes}
    (hws : ∀ b ∈ ws, isSpace b = true) :
    parse (indented level v ++ ws) = some (guardedValue v) := by
  have hread := parse_laid h .lines level ws hws
  rwa [laid_lines] at hread

end ReadingBack

end Json

end CallAssist
