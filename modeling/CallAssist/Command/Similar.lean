import CallAssist.Text.LetterCase
import CallAssist.Text.Rune

/-!
Names that someone may have meant by a mistyped one.
-/

namespace CallAssist

namespace Similar

def lowered (t : Bytes) : Bytes :=
  Bytes.ofChars ((Bytes.chars t).map Letter.lowerOne)

/-- The rest of a row of edit distances. `diagonal` and `above` come from the row before, `left` is
the distance just found. -/
def rowFrom (a : UInt8) : Bytes → Nat → List Nat → Nat → List Nat
  | b :: t, diagonal, above :: row, left =>
    let d := if a = b then diagonal else 1 + min left (min above diagonal)
    d :: rowFrom a t above row d
  | _, _, _, _ => []

/-- The edit distances of a text with `a` added to the prefixes of `t`, from those of the text. -/
def nextRow (t : Bytes) (row : List Nat) (a : UInt8) : List Nat :=
  match row with
  | [] => []
  | first :: rest => (first + 1) :: rowFrom a t first rest (first + 1)

/-- The least number of bytes to add, drop or change to get from one text to another. -/
def distance (s t : Bytes) : Nat :=
  (s.foldl (nextRow t) (List.range (t.length + 1))).getLast?.getD 0

def reach : Nat := 2

/-- Whether a name may be meant by what was typed: it is near, or starts so. Letter case does not
matter. -/
def isNear (typed name : Bytes) : Bool :=
  let typed := lowered typed
  let name := lowered name
  distance typed name ≤ reach || typed.isPrefixOf name

end Similar

end CallAssist
