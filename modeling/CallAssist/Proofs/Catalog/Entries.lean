import CallAssist.Proofs.Catalog.Index

/-! The entries of a source and the catalogue they make. All of them are asked for their parts
before a name is looked at, and then there is one function for each of them or no catalogue at
all. -/

namespace CallAssist

def Function.entry (f : Function) : Entry := ⟨some f.name, some f.params, some f.description⟩

def Part.all : List Part := [.name, .params, .description]

namespace Entry

def lacks (e : Entry) : Part → Bool
  | .name => e.name.isNone
  | .params => e.params.isNone
  | .description => e.description.isNone

/-- The first entry that lacks a part, and the first part that it lacks. -/
structure FirstMissing (es : List Entry) (i : Nat) (p : Part) : Prop where
  missing : ∃ e, es[i]? = some e ∧ Part.all.find? e.lacks = some p
  complete_before : ∀ j < i, ∀ e, es[j]? = some e → ∀ q, e.lacks q = false

section Parts

theorem function_eq_ok {e : Entry} {f : Function} : e.function = .ok f ↔ e = f.entry := by
  obtain ⟨name, params, description⟩ := e
  obtain ⟨name', params', description'⟩ := f
  cases name <;> cases params <;> cases description <;> simp [function, Function.entry]

theorem function_eq_error {e : Entry} {p : Part} :
    e.function = .error p ↔ Part.all.find? e.lacks = some p := by
  obtain ⟨name, params, description⟩ := e
  cases name <;> cases params <;> cases description <;> simp [function, Part.all, lacks]

/-- The entry of a function lacks nothing. -/
theorem lacks_entry (f : Function) (p : Part) : f.entry.lacks p = false := by
  cases p <;> rfl

end Parts

section Lists

theorem functions_cons_ok {i : Nat} {e : Entry} {es : List Entry} {fs : List Function} :
    functions i (e :: es) = .ok fs ↔
      ∃ f gs, e.function = .ok f ∧ functions (i + 1) es = .ok gs ∧ fs = f :: gs := by
  rw [functions]
  cases e.function with
  | error p => simp
  | ok f =>
    cases functions (i + 1) es with
    | error err => simp [Except.map]
    | ok gs => simp [Except.map, eq_comm]

/-- Functions are found exactly for entries that lack nothing. -/
theorem functions_eq_ok {i : Nat} {es : List Entry} {fs : List Function} :
    functions i es = .ok fs ↔ es = fs.map Function.entry := by
  induction es generalizing i fs with
  | nil =>
    rw [functions, Except.ok.injEq, eq_comm, eq_comm (a := []), List.map_eq_nil_iff]
  | cons e es ih =>
    rw [functions_cons_ok, eq_comm, List.map_eq_cons_iff]
    simp only [function_eq_ok, ih]
    constructor
    · rintro ⟨f, gs, rfl, rfl, rfl⟩
      exact ⟨f, gs, rfl, rfl, rfl⟩
    · rintro ⟨f, gs, rfl, rfl, rfl⟩
      exact ⟨f, gs, rfl, rfl, rfl⟩

/-- An entry that lacks a part is the first one where it stands in front. -/
theorem firstMissing_cons_missing {e : Entry} {es : List Entry} {p : Part}
    (h : Part.all.find? e.lacks = some p) {k : Nat} {q : Part} :
    FirstMissing (e :: es) k q ↔ k = 0 ∧ q = p := by
  constructor
  · rintro ⟨⟨e', he', hq⟩, hbefore⟩
    obtain rfl : k = 0 := by
      by_contra hk
      have hnone := hbefore 0 (Nat.pos_of_ne_zero hk) e rfl p
      rw [List.find?_some h] at hnone
      cases hnone
    obtain rfl : e = e' := Option.some.inj he'
    exact ⟨rfl, Option.some.inj (hq.symm.trans h)⟩
  · rintro ⟨rfl, rfl⟩
    exact ⟨⟨e, rfl, h⟩, fun j hj => absurd hj (Nat.not_lt_zero j)⟩

/-- A complete entry in front only moves the first one that lacks a part. -/
theorem firstMissing_cons_complete (f : Function) {es : List Entry} {k : Nat} {p : Part} :
    FirstMissing (f.entry :: es) k p ↔ ∃ j, k = j + 1 ∧ FirstMissing es j p := by
  constructor
  · rintro ⟨⟨e, he, hp⟩, hbefore⟩
    cases k with
    | zero =>
      obtain rfl : f.entry = e := Option.some.inj he
      have hlacks := List.find?_some hp
      rw [lacks_entry] at hlacks
      cases hlacks
    | succ k => exact ⟨k, rfl, ⟨e, he, hp⟩, fun j hj => hbefore (j + 1) (Nat.succ_lt_succ hj)⟩
  · rintro ⟨j, rfl, ⟨e, he, hp⟩, hbefore⟩
    refine ⟨⟨e, he, hp⟩, fun i hi e' he' q => ?_⟩
    cases i with
    | zero =>
      obtain rfl : f.entry = e' := Option.some.inj he'
      exact lacks_entry f q
    | succ i => exact hbefore i (Nat.lt_of_succ_lt_succ hi) e' he' q

/-- The functions of entries fail with the first entry that lacks a part. -/
theorem functions_eq_error {i : Nat} {es : List Entry} {err : EntryError} :
    functions i es = .error err ↔
      ∃ k p, err = ⟨i + k, .missing p⟩ ∧ FirstMissing es k p := by
  induction es generalizing i with
  | nil =>
    constructor
    · intro h
      cases h
    · rintro ⟨k, p, -, ⟨e, he, -⟩, -⟩
      cases he
  | cons e es ih =>
    cases he : e.function with
    | error p =>
      have hlacks := function_eq_error.mp he
      simp only [functions, he, Except.error.injEq, firstMissing_cons_missing hlacks]
      constructor
      · rintro rfl
        exact ⟨0, p, rfl, rfl, rfl⟩
      · rintro ⟨k, q, rfl, rfl, rfl⟩
        rfl
    | ok f =>
      obtain rfl := function_eq_ok.mp he
      have hrest : functions i (f.entry :: es) = .error err ↔
          functions (i + 1) es = .error err := by
        rw [functions, he]
        cases functions (i + 1) es <;> simp [Except.map]
      rw [hrest, ih]
      simp only [firstMissing_cons_complete]
      constructor
      · rintro ⟨k, p, rfl, hk⟩
        exact ⟨k + 1, p, by rw [Nat.add_right_comm, Nat.add_assoc], k, rfl, hk⟩
      · rintro ⟨_, p, rfl, k, rfl, hk⟩
        exact ⟨k, p, by rw [Nat.add_right_comm, Nat.add_assoc], hk⟩

end Lists

end Entry

namespace Catalog

theorem parse_eq {data : Bytes} {f : Format} {es : List Entry}
    (h : f.entries data = .ok (some es)) : parse data f = (ofEntries es).mapError .entry := by
  simp only [parse, h]
  cases ofEntries es with
  | error e => rfl
  | ok c => rfl

/-- A source that spells a catalogue has the entries of its functions, all of them complete. -/
theorem entries_of_parse {data : Bytes} {f : Format} {c : Catalog} (h : parse data f = .ok c) :
    f.entries data = .ok (some (c.functions.map Function.entry)) := by
  unfold parse at h
  split at h
  · cases h
  · cases h
  · next es hes =>
    split at h
    · cases h
    · next c' hc =>
      cases h
      obtain ⟨fs, hfs, hc⟩ := exists_of_bind_ok hc
      rw [hes, Entry.functions_eq_ok.mp hfs, (ofFunctions_ok hc).1]

theorem ofEntries_of_missing {es : List Entry} {i : Nat} {p : Part}
    (h : Entry.FirstMissing es i p) : ofEntries es = .error ⟨i, .missing p⟩ := by
  have herror : Entry.functions 0 es = .error ⟨i, .missing p⟩ :=
    Entry.functions_eq_error.mpr ⟨i, p, by rw [Nat.zero_add], h⟩
  rw [ofEntries, herror]
  rfl

theorem ofEntries_map_entry (fs : List Function) :
    ofEntries (fs.map Function.entry) = ofFunctions fs := by
  rw [ofEntries, Entry.functions_eq_ok.mpr rfl]
  rfl

/-- Entries are complete, or there is a first one among them that lacks a part. -/
theorem complete_or_missing (es : List Entry) :
    (∃ fs : List Function, es = fs.map Function.entry) ∨ ∃ i p, Entry.FirstMissing es i p := by
  cases h : Entry.functions 0 es with
  | ok fs => exact .inl ⟨fs, Entry.functions_eq_ok.mp h⟩
  | error err =>
    obtain ⟨k, p, -, hk⟩ := Entry.functions_eq_error.mp h
    exact .inr ⟨k, p, hk⟩

/-- A source in any format: where its entries are a list, the first one that lacks a part is
reported, with the first part it lacks and whatever the names before it are; a complete list is
taken or refused as the functions in it are. A null in place of the list is refused. What is taken
has exactly one function for each entry, in order and with all its parts. -/
theorem parseAs_all_or_nothing (data label : Bytes) :
    (∀ format es, Format.ofLabel? label = some format → format.entries data = .ok (some es) →
      ((∃ e ∈ es, ∃ p, e.lacks p = true) → ∃ i p, Entry.FirstMissing es i p ∧
        parseAs data label = .error (.entry ⟨i, .missing p⟩)) ∧
      ((∀ e ∈ es, ∀ p, e.lacks p = false) → ∃ fs : List Function, es = fs.map Function.entry ∧
        (∀ e, ofFunctions fs = .error e → parseAs data label = .error (.entry e)) ∧
        ∀ c, ofFunctions fs = .ok c → parseAs data label = .ok c ∧ c.functions = fs)) ∧
    (∀ format, Format.ofLabel? label = some format → format.entries data = .ok none →
      parseAs data label = .error .notList) ∧
    ∀ c, parseAs data label = .ok c → ∃ format, Format.ofLabel? label = some format ∧
      format.entries data = .ok (some (c.functions.map Function.entry)) := by
  refine ⟨fun format es hformat hes => ⟨fun hlacks => ?_, fun hcomplete => ?_⟩, ?_, ?_⟩
  · have hparse : parseAs data label = (ofEntries es).mapError .entry := by
      rw [parseAs, hformat]
      exact parse_eq hes
    rcases complete_or_missing es with ⟨fs, rfl⟩ | ⟨i, p, hmissing⟩
    · obtain ⟨e, he, p, hp⟩ := hlacks
      obtain ⟨f, -, rfl⟩ := List.mem_map.mp he
      rw [Entry.lacks_entry] at hp
      cases hp
    · refine ⟨i, p, hmissing, ?_⟩
      rw [hparse, ofEntries_of_missing hmissing]
      rfl
  · rcases complete_or_missing es with ⟨fs, rfl⟩ | ⟨i, p, ⟨e, he, hp⟩, -⟩
    · have hparse : parseAs data label = (ofFunctions fs).mapError .entry := by
        rw [parseAs, hformat, ← ofEntries_map_entry]
        exact parse_eq hes
      refine ⟨fs, rfl, fun e he => ?_, fun c hc => ⟨?_, (ofFunctions_ok hc).1⟩⟩
      · rw [hparse, he]
        rfl
      · rw [hparse, hc]
        rfl
    · have hlacks := hcomplete e (List.mem_of_getElem? he) p
      rw [List.find?_some hp] at hlacks
      cases hlacks
  · intro format hformat hes
    simp only [parseAs, hformat, parse, hes]
  · intro c hc
    unfold parseAs at hc
    split at hc
    · cases hc
    · next format hformat => exact ⟨format, hformat, entries_of_parse hc⟩

/-- The first entry has no name to speak of, but the second one lacks its parameters. -/
theorem parseAs_all_or_nothing_two_faults :
    let data := utf8
      "[\x7b\"name\":\"\",\"params\":[],\"description\":\"\"\x7d,\x7b\"name\":\"f\"\x7d]"
    let es : List Entry := [⟨some [], some [], some []⟩, ⟨some (utf8 "f"), none, none⟩]
    Format.entries data .json = .ok (some es) ∧ Entry.FirstMissing es 1 .params ∧
      ∃ i p, Entry.FirstMissing es i p ∧
        parseAs data (utf8 "json") = .error (.entry ⟨i, .missing p⟩) := by
  intro data es
  have hes : Format.entries data .json = .ok (some es) := by decide +kernel
  have hmissing : Entry.FirstMissing es 1 .params := by
    refine ⟨⟨_, rfl, rfl⟩, fun j hj e he q => ?_⟩
    obtain rfl : j = 0 := Nat.lt_one_iff.mp hj
    obtain rfl : (⟨some [], some [], some []⟩ : Entry) = e := Option.some.inj he
    cases q <;> rfl
  obtain ⟨hread, -⟩ := parseAs_all_or_nothing data (utf8 "json")
  have hfound := (hread .json es rfl hes).1 ⟨es[1], List.getElem_mem _, .params, rfl⟩
  exact ⟨hes, hmissing, hfound⟩

end Catalog

end CallAssist
