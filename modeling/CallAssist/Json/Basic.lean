import CallAssist.Text.Bytes

/-!
JSON values. Numbers and strings keep their spelling, and objects keep the order and the repeats of
their fields, so that a value can be passed on exactly as it came.
-/

namespace CallAssist

/-- A JSON value. A string, and the key of a field, is the text between its quotes with the escapes
still in it. -/
inductive Json where
  | null
  | bool (value : Bool)
  | number (digits : Bytes)
  | string (body : Bytes)
  | array (items : List Json)
  | object (fields : List (Bytes × Json))
  deriving Repr, Inhabited

namespace Json

/-- Containers may be nested this deep and no deeper. -/
def maxDepth : Nat := 10000

/-- The fields of an object; none for any other value. -/
def fields : Json → List (Bytes × Json)
  | .object fs => fs
  | _ => []

/-- The items of an array; none for any other value. -/
def items : Json → List Json
  | .array xs => xs
  | _ => []

end Json

end CallAssist
