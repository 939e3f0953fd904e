import CallAssist.Proofs.Catalog.Index
import CallAssist.Proofs.Text.Words

/-! Which lists of functions make a catalogue. The first entry whose name is empty, no identifier or
taken is the one that is reported; if there is none, looking a name up is a scan of the list. -/

namespace CallAssist

/-- A name: not empty, and of word bytes only. -/
def Bytes.IsName (t : Bytes) : Prop := t ≠ [] ∧ ∀ b ∈ t, b ∈ wordBytes

theorem Bytes.isIdentifier_iff (t : Bytes) : isIdentifier t = true ↔ t.IsName := by
  simp [isIdentifier, IsName, isWord_iff]

namespace Catalog

/-- What is wrong with the name of the entry at a position, those before it being looked at for the
same name only. -/
inductive FaultAt (fs : List Function) (i : Nat) : EntryFault → Prop
  | empty {f : Function} (there : fs[i]? = some f) (no_name : f.name = []) : FaultAt fs i .emptyName
  | malformed {f : Function} (there : fs[i]? = some f) (some_name : f.name ≠ [])
      (no_identifier : ¬ f.name.IsName) : FaultAt fs i (.notIdentifier f.name)
  | taken {f g : Function} {j : Nat} (there : fs[i]? = some f) (identifier : f.name.IsName)
      (earlier : j < i) (first : fs[j]? = some g) (same : g.name = f.name) :
      FaultAt fs i (.duplicate f.name j)

/-- The fault of the first entry that has one. -/
structure IsFirstFault (fs : List Function) (e : EntryError) : Prop where
  fault : FaultAt fs e.index e.fault
  none_before : ∀ i < e.index, ∀ fault, ¬ FaultAt fs i fault

section Faults

variable {c : Catalog} {fs : List Function}

theorem FaultAt.lt_length {i : Nat} {fault : EntryFault} (h : FaultAt fs i fault) :
    i < fs.length := by
  cases h with
  | empty there _ => exact (List.getElem?_eq_some_iff.mp there).1
  | malformed there _ _ => exact (List.getElem?_eq_some_iff.mp there).1
  | taken there _ _ _ _ => exact (List.getElem?_eq_some_iff.mp there).1

/-- The entries of a catalogue have no fault, whatever follows them. -/
theorem Indexed.not_faultAt (hc : c.Indexed) {i : Nat} (hi : i < c.size) (fault : EntryFault) :
    ¬ FaultAt (c.functions ++ fs) i fault := by
  have hheld (j : Nat) (hj : j < c.size) : (c.functions ++ fs)[j]? = c.functions[j]? :=
    List.getElem?_append_left hj
  have hname (f : Function) (hf : c.functions[i]? = some f) : f.name.IsName :=
    (Bytes.isIdentifier_iff f.name).mp (hc.identifier f (List.mem_of_getElem? hf))
  intro h
  cases h with
  | empty there no_name =>
    rw [hheld i hi] at there
    exact (hname _ there).1 no_name
  | malformed there _ no_identifier =>
    rw [hheld i hi] at there
    exact no_identifier (hname _ there)
  | taken there _ earlier first same =>
    rw [hheld i hi] at there
    rw [hheld _ (earlier.trans hi)] at first
    exact Nat.ne_of_lt earlier (hc.position_unique first there same)

/-- What keeps a function from being added is the fault it has in the place where it would be. -/
theorem Indexed.fault?_eq_some (hc : c.Indexed) {f : Function} {fault : EntryFault}
    (fs : List Function) :
    c.fault? f = some fault ↔ FaultAt (c.functions ++ f :: fs) c.size fault := by
  have hhere : (c.functions ++ f :: fs)[c.size]? = some f := by
    rw [size, List.getElem?_append_right (Nat.le_refl _), Nat.sub_self, List.getElem?_cons_zero]
  have hsame {g : Function} (hg : (c.functions ++ f :: fs)[c.size]? = some g) : g = f :=
    Option.some.inj (hg.symm.trans hhere)
  have hearlier (j : Nat) (hj : j < c.size) : (c.functions ++ f :: fs)[j]? = c.functions[j]? :=
    List.getElem?_append_left hj
  constructor
  · intro h
    unfold fault? at h
    split_ifs at h with hempty hid
    · cases h
      exact .empty hhere (List.isEmpty_iff.mp hempty)
    · cases h
      refine .malformed hhere (by simpa using hempty) fun hname => ?_
      rw [(Bytes.isIdentifier_iff f.name).mpr hname] at hid
      cases hid
    · obtain ⟨j, hj, rfl⟩ := Option.map_eq_some_iff.mp h
      obtain ⟨g, hg, hname⟩ := (hc.position f.name j).mp hj
      have hlt : j < c.size := (List.getElem?_eq_some_iff.mp hg).1
      have hid : Bytes.isIdentifier f.name = true := by simpa using hid
      exact .taken hhere ((Bytes.isIdentifier_iff f.name).mp hid) hlt
        ((hearlier j hlt).trans hg) hname
  · intro h
    cases h with
    | empty there no_name =>
      rw [hsame there] at no_name
      simp [fault?, no_name]
    | malformed there some_name no_identifier =>
      obtain rfl := hsame there
      have hid := mt (Bytes.isIdentifier_iff _).mp no_identifier
      simp [fault?, some_name, hid]
    | @taken g first j there identifier earlier before same =>
      obtain rfl := hsame there
      rw [hearlier j earlier] at before
      have hindex := (hc.position g.name j).mpr ⟨first, before, same⟩
      have hid := (Bytes.isIdentifier_iff g.name).mpr identifier
      simp [fault?, identifier.1, hid, hindex]

/-- Adding functions fails with the first fault among all that there are then. -/
theorem Indexed.extend_eq_error (hc : c.Indexed) {e : EntryError} :
    c.extend fs = .error e ↔ IsFirstFault (c.functions ++ fs) e := by
  induction fs generalizing c with
  | nil =>
    constructor
    · intro h
      cases h
    · intro h
      have hlt : e.index < c.size := by simpa [size] using h.fault.lt_length
      exact absurd h.fault (hc.not_faultAt hlt e.fault)
  | cons f fs ih =>
    rw [extend]
    cases hf : c.fault? f with
    | some fault =>
      have hhere := (hc.fault?_eq_some fs).mp hf
      constructor
      · intro h
        cases h
        exact ⟨hhere, fun i hi fault => hc.not_faultAt hi fault⟩
      · intro h
        have hindex : e.index = c.size := by
          refine Nat.le_antisymm ?_ ?_
          · exact Nat.le_of_not_lt fun hlt => h.none_before c.size hlt fault hhere
          · exact Nat.le_of_not_lt fun hlt => hc.not_faultAt hlt e.fault h.fault
        have hfault : c.fault? f = some e.fault := by
          rw [hc.fault?_eq_some fs, ← hindex]
          exact h.fault
        rw [← hindex, Option.some.inj (hf.symm.trans hfault)]
    | none =>
      have hpush : (c.push f).functions ++ fs = c.functions ++ f :: fs := by
        rw [Catalog.push, List.append_assoc, List.singleton_append]
      rw [← hpush]
      exact ih (hc.push hf)

end Faults

section Scan

variable {c : Catalog}

/-- The position of a name is that of the first function a scan finds. -/
theorem Indexed.index?_eq_findIdx? (hc : c.Indexed) (name : Bytes) :
    c.index? name = c.functions.findIdx? fun f => f.name == name := by
  apply Option.ext
  intro i
  rw [hc.position, List.findIdx?_eq_some_iff_getElem]
  constructor
  · rintro ⟨f, hf, rfl⟩
    obtain ⟨hi, rfl⟩ := List.getElem?_eq_some_iff.mp hf
    refine ⟨hi, beq_self_eq_true _, fun j hj hsame => ?_⟩
    have hbefore := List.getElem?_eq_getElem (hj.trans hi)
    exact Nat.ne_of_lt hj (hc.position_unique hbefore hf (beq_iff_eq.mp hsame))
  · rintro ⟨hi, hname, -⟩
    exact ⟨c.functions[i], List.getElem?_eq_getElem hi, beq_iff_eq.mp hname⟩

theorem Indexed.lookup?_eq_find? (hc : c.Indexed) (name : Bytes) :
    c.lookup? name = c.functions.find? fun f => f.name == name := by
  rw [lookup?, hc.index?_eq_findIdx?]
  cases hi : c.functions.findIdx? fun f => f.name == name with
  | none =>
    rw [Option.bind_none, eq_comm, List.find?_eq_none]
    intro f hf
    rw [List.findIdx?_eq_none_iff.mp hi f hf]
    exact Bool.false_ne_true
  | some i =>
    obtain ⟨hlt, hname, hbefore⟩ := List.findIdx?_eq_some_iff_getElem.mp hi
    rw [Option.bind_some, at?, List.getElem?_eq_getElem hlt, eq_comm,
      List.find?_eq_some_iff_getElem]
    exact ⟨hname, i, hlt, rfl, fun j hj => by simpa using hbefore j hj⟩

end Scan

/-- Functions make a catalogue exactly if their names are identifiers and no two are the same. Then
the catalogue has them in their order, and positions and functions are found as by a scan; else the
first fault is reported, a name that is taken with the position of the entry that has it. -/
theorem ofFunctions_exact (fs : List Function) :
    ((∃ c, ofFunctions fs = .ok c) ↔
      (∀ f ∈ fs, f.name.IsName) ∧ fs.Pairwise fun f g => f.name ≠ g.name) ∧
    (∀ c, ofFunctions fs = .ok c → c.functions = fs ∧ (∀ i, c.at? i = fs[i]?) ∧
      ∀ name, c.index? name = fs.findIdx? (fun f => f.name == name) ∧
        c.lookup? name = fs.find? (fun f => f.name == name) ∧
        ∀ i, c.index? name = some i → c.at? i = c.lookup? name) ∧
    ∀ e, ofFunctions fs = .error e ↔ IsFirstFault fs e := by
  refine ⟨⟨?_, ?_⟩, ?_, fun e => empty_indexed.extend_eq_error⟩
  · rintro ⟨c, hc⟩
    obtain ⟨rfl, hindexed⟩ := ofFunctions_ok hc
    refine ⟨fun f hf => (Bytes.isIdentifier_iff f.name).mp (hindexed.identifier f hf), ?_⟩
    exact List.pairwise_map.mp hindexed.distinct
  · rintro ⟨hnames, hdistinct⟩
    apply ofFunctions_of_distinct
    · exact fun f hf => (Bytes.isIdentifier_iff f.name).mpr (hnames f hf)
    · exact List.pairwise_map.mpr hdistinct
  · intro c hc
    obtain ⟨rfl, hindexed⟩ := ofFunctions_ok hc
    refine ⟨rfl, fun i => rfl, fun name => ⟨hindexed.index?_eq_findIdx? name,
      hindexed.lookup?_eq_find? name, fun i hi => ?_⟩⟩
    rw [lookup?, hi, Option.bind_some]

end Catalog

end CallAssist
