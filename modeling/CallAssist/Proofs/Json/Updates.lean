import CallAssist.Json.Update
import CallAssist.Proofs.Json.Values

/-! Values read into records, one field after the other. -/

namespace CallAssist

namespace Json

theorem reader?_mem {α : Type} {readers : List (Bytes × Update α)} {key : Bytes} {u : Update α}
    (h : reader? readers key = some u) : ∃ name, (name, u) ∈ readers := by
  unfold reader? at h
  split at h
  · next u' hl =>
    obtain ⟨l₁, l₂, hs, _⟩ := List.lookup_eq_some_iff.mp hl
    cases h
    exact ⟨key, by rw [hs]; simp⟩
  · obtain ⟨r, hr, rfl⟩ := Option.map_eq_some_iff.mp h
    exact ⟨r.1, List.mem_of_find?_eq_some hr⟩

namespace Update

/-- The field of a member changes that member and leaves the others as they are. -/
theorem record_member {α β : Type} {readers : List (Bytes × Update α)} (key : String)
    (get : α → β) (set : α → β → α) (u : Update β) {k : Bytes} (hk : textOfBody k = utf8 key)
    (h : readers.lookup (utf8 key) = some (member key get set u).2) (held : α) (v : Json)
    (fs : List (Bytes × Json)) : record readers held (.object ((k, v) :: fs)) =
      (u (get held) v).bind fun x => record readers (set held x) (.object fs) := by
  simp only [record, record.go, reader?, hk, h, member]
  cases u (get held) v with
  | none => rfl
  | some x => rfl

/-- What every field keeps holds of a record that was read. -/
theorem record_invariant {α : Type} {readers : List (Bytes × Update α)} {P : α → Prop}
    {d : Nat} (hu : ∀ name u, (name, u) ∈ readers → ∀ held v held', Proper d v →
      u held v = some held' → P held → P held')
    {held held' : α} {v : Json} (hv : Proper (d + 1) v)
    (h : record readers held v = some held') (hp : P held) : P held' := by
  have go (fs : List (Bytes × Json)) (hfs : ProperFields d fs) :
      ∀ held, record.go readers held fs = some held' → P held → P held' := by
    induction fs with
    | nil =>
      intro held h hp
      cases h
      exact hp
    | cons f fs ih =>
      obtain ⟨key, v⟩ := f
      obtain ⟨_, hv, hfs⟩ := hfs
      intro held h hp
      rw [record.go] at h
      split at h
      · exact ih hfs held h hp
      · next u hr =>
        obtain ⟨name, hm⟩ := reader?_mem hr
        split at h
        · cases h
        · next held₁ hs => exact ih hfs held₁ h (hu name u hm held v held₁ hv hs hp)
  cases v with
  | null =>
    cases h
    exact hp
  | object fs => exact go fs hv.2 held h hp
  | bool b => cases h
  | number ds => cases h
  | string body => cases h
  | array xs => cases h

end Update

def Cells.full {α : Type} (xs : List α) : Cells α := ⟨xs, xs.length⟩

@[simp]
theorem Cells.toList_full {α : Type} (xs : List α) : (Cells.full xs).toList = xs :=
  List.take_length

/-- A list read for the first time has an item for each item of the array. -/
theorem Cells.update_empty {α β : Type} {fresh : α} {u : Update α} {json : β → Json}
    {value : β → α} {xs : List β} (h : ∀ x ∈ xs, u fresh (json x) = some (value x)) :
    Cells.update fresh u .empty (.array (xs.map json)) = some (full (xs.map value)) := by
  have hcells : Cells.overwrite fresh u [] (xs.map json) = some (xs.map value) := by
    induction xs with
    | nil => rfl
    | cons x xs ih =>
      obtain ⟨hx, hxs⟩ := List.forall_mem_cons.mp h
      simp [Cells.overwrite, hx, ih hxs]
  cases xs with
  | nil => rfl
  | cons x xs =>
    change (Cells.overwrite fresh u [] ((x :: xs).map json)).map _ = _
    rw [hcells, Option.map_some, List.length_map, full, List.length_map]

end Json

end CallAssist
