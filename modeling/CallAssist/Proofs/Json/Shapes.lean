import CallAssist.Json.Update
import Mathlib.Data.List.Forall2

/-!
The shapes of JSON values. A reader takes the values of its shape whatever it holds, so whether an
object can be read is decided by each of its fields alone: one that does not fit is enough to refuse
it, however many were read before.
-/

namespace CallAssist

namespace Json

/-- What a value has to be in order to be read. -/
inductive Shape where
  | text
  | flag
  | integer
  | word
  | list (item : Shape)
  | record (fields : List (Bytes × Shape))

namespace Shape

def ofFields (fields : List (String × Shape)) : Shape :=
  .record (fields.map fun f => (utf8 f.1, f.2))

/-- The shape for a key: that of the field of exactly that name, else of the first whose name agrees
up to letter case. -/
def field? (fields : List (Bytes × Shape)) (key : Bytes) : Option Shape :=
  match fields.lookup key with
  | some s => some s
  | none => (fields.find? fun f => Bytes.foldKey f.1 == Bytes.foldKey key).map (·.2)

mutual

/-- Whether a value has a shape. A null has every shape, and unknown fields may hold anything. -/
def fits : Shape → Json → Bool
  | _, .null => true
  | .text, .string _ => true
  | .flag, .bool _ => true
  | .integer, .number ds => (Integer.decimal ds).isOk
  | .word, .number ds => (Integer.decimalNat ds).toOption.any (· < 0x100000000)
  | .list item, .array xs => item.fitsItems xs
  | .record fields, .object fs => fitsFields fields fs
  | _, _ => false

def fitsItems (item : Shape) : List Json → Bool
  | [] => true
  | x :: xs => item.fits x && item.fitsItems xs

def fitsFields (fields : List (Bytes × Shape)) : List (Bytes × Json) → Bool
  | [] => true
  | (key, v) :: fs =>
    (match field? fields (textOfBody key) with
      | none => true
      | some s => s.fits v) && fitsFields fields fs

end

@[simp]
theorem fits_null (s : Shape) : s.fits .null = true := by
  cases s <;> rfl

end Shape

namespace Update

variable {α β : Type} {u : Update α} {s : Shape}

/-- A reader takes exactly the values of a shape, whatever it holds. -/
def Takes (u : Update α) (s : Shape) : Prop := ∀ held v, (u held v).isSome = s.fits v

theorem takes_text : Takes text .text := by
  intro held v
  cases v <;> rfl

theorem takes_flag : Takes flag .flag := by
  intro held v
  cases v <;> rfl

theorem takes_integer : Takes integer .integer := by
  intro held v
  cases v with
  | number ds =>
    rw [integer, Shape.fits]
    cases Integer.decimal ds <;> rfl
  | _ => rfl

theorem takes_word : Takes word .word := by
  intro held v
  cases v with
  | number ds =>
    rw [word, Shape.fits]
    cases Integer.decimalNat ds with
    | error e => rfl
    | ok n =>
      change (if n < 0x100000000 then some n.toUInt32 else none).isSome = decide _
      split <;> simp_all
  | _ => rfl

theorem Takes.optional (h : u.Takes s) (fresh : α) : (Update.optional fresh u).Takes s := by
  intro held v
  by_cases hv : v = .null
  · rw [hv, s.fits_null]
    rfl
  · have hread : Update.optional fresh u held v = (u (held.getD fresh) v).map some := by
      cases v with
      | null => exact absurd rfl hv
      | _ => rfl
    rw [hread, Option.isSome_map, h]

private theorem Takes.isSome_overwrite (h : u.Takes s) (fresh : α) (cells : List α)
    (vs : List Json) : (Cells.overwrite fresh u cells vs).isSome = s.fitsItems vs := by
  induction vs generalizing cells with
  | nil => cases cells <;> rfl
  | cons v vs ih =>
    cases cells with
    | nil =>
      have hv := h fresh v
      have hvs := ih []
      rw [Cells.overwrite, Shape.fitsItems, ← hv, ← hvs]
      cases u fresh v <;> cases Cells.overwrite fresh u [] vs <;> rfl
    | cons c cells =>
      have hv := h c v
      have hvs := ih cells
      rw [Cells.overwrite, Shape.fitsItems, ← hv, ← hvs]
      cases u c v <;> cases Cells.overwrite fresh u cells vs <;> rfl

theorem Takes.cells (h : u.Takes s) (fresh : α) : (Cells.update fresh u).Takes (.list s) := by
  intro held v
  cases v with
  | array xs =>
    cases xs with
    | nil => rfl
    | cons x xs =>
      change ((Cells.overwrite fresh u held.cells (x :: xs)).map _).isSome = _
      rw [Option.isSome_map, h.isSome_overwrite, Shape.fits]
  | _ => rfl

abbrev TakesAll (readers : List (Bytes × Update α)) (fields : List (Bytes × Shape)) : Prop :=
  List.Forall₂ (fun r f => r.1 = f.1 ∧ r.2.Takes f.2) readers fields

variable {readers : List (Bytes × Update α)} {fields : List (Bytes × Shape)}

theorem TakesAll.member {u : Update β} {key : String} {get : α → β} {set : α → β → α}
    (hu : u.Takes s) (h : TakesAll readers fields) :
    TakesAll (member key get set u :: readers) ((utf8 key, s) :: fields) := by
  refine .cons ⟨rfl, fun held v => ?_⟩ h
  rw [← hu (get held) v]
  exact Option.isSome_map

private theorem TakesAll.lookup (h : TakesAll readers fields) (key : Bytes) :
    Option.Rel Takes (readers.lookup key) (fields.lookup key) := by
  induction h with
  | nil => exact .none
  | @cons r f readers fields hrf _ ih =>
    obtain ⟨hname, htakes⟩ := hrf
    rw [List.lookup_cons, List.lookup_cons, hname]
    cases key == f.1 with
    | true => exact .some htakes
    | false => exact ih

private theorem TakesAll.find? (h : TakesAll readers fields) (P : Bytes → Bool) :
    Option.Rel Takes ((readers.find? fun r => P r.1).map (·.2))
      ((fields.find? fun f => P f.1).map (·.2)) := by
  induction h with
  | nil => exact .none
  | @cons r f readers fields hrf _ ih =>
    obtain ⟨hname, htakes⟩ := hrf
    rw [List.find?_cons, List.find?_cons, hname]
    cases P f.1 with
    | true => exact .some htakes
    | false => exact ih

private theorem TakesAll.reader? (h : TakesAll readers fields) (key : Bytes) :
    Option.Rel Takes (reader? readers key) (Shape.field? fields key) := by
  have hexact := h.lookup key
  rw [Json.reader?, Shape.field?]
  generalize readers.lookup key = r, fields.lookup key = f at hexact
  cases hexact with
  | some htakes => exact .some htakes
  | none => exact h.find? fun name => Bytes.foldKey name == Bytes.foldKey key

theorem TakesAll.record (h : TakesAll readers fields) :
    (Update.record readers).Takes (.record fields) := by
  have hgo (fs : List (Bytes × Json)) (held : α) :
      (Update.record.go readers held fs).isSome = Shape.fitsFields fields fs := by
    induction fs generalizing held with
    | nil => rfl
    | cons f fs ih =>
      obtain ⟨key, v⟩ := f
      rw [Update.record.go, Shape.fitsFields]
      have hkey := h.reader? (textOfBody key)
      generalize Json.reader? readers (textOfBody key) = r,
        Shape.field? fields (textOfBody key) = f at hkey
      cases hkey with
      | @some u s htakes =>
        have hv := htakes held v
        cases hheld : u held v with
        | none =>
          rw [hheld] at hv
          simp [hheld, ← hv]
        | some held' =>
          rw [hheld] at hv
          simp [hheld, ← hv, ih held']
      | none => exact ih held
  intro held v
  cases v with
  | object fs => exact hgo fs held
  | _ => rfl

end Update

end Json

end CallAssist
