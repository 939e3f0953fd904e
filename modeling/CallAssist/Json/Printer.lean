import CallAssist.Json.Basic

/-!
Writing JSON text, on one line or indented. Characters that mean something to a page of HTML, and
the two separators U+2028 and U+2029, are always escaped.
-/

namespace CallAssist

namespace Json

def guarded : Bytes → Bytes
  | [] => []
  | 0xE2 :: 0x80 :: b :: t =>
    if b == 0xA8 then utf8 "\\u2028" ++ guarded t
    else if b == 0xA9 then utf8 "\\u2029" ++ guarded t
    else 0xE2 :: 0x80 :: guarded (b :: t)
  | b :: t =>
    (if b == 0x3C then utf8 "\\u003c"
    else if b == 0x3E then utf8 "\\u003e"
    else if b == 0x26 then utf8 "\\u0026"
    else [b]) ++ guarded t

def writeBody (body : Bytes) : Bytes := [0x22] ++ guarded body ++ [0x22]

mutual

def write : Json → Bytes
  | .null => utf8 "null"
  | .bool b => if b then utf8 "true" else utf8 "false"
  | .number ds => ds
  | .string body => writeBody body
  | .array xs => [0x5B] ++ writeItems xs ++ [0x5D]
  | .object fs => [0x7B] ++ writeFields fs ++ [0x7D]

def writeItems : List Json → Bytes
  | [] => []
  | [x] => write x
  | x :: xs => write x ++ [0x2C] ++ writeItems xs

def writeFields : List (Bytes × Json) → Bytes
  | [] => []
  | [(k, v)] => writeBody k ++ [0x3A] ++ write v
  | (k, v) :: fs => writeBody k ++ [0x3A] ++ write v ++ [0x2C] ++ writeFields fs

end

def newline (level : Nat) : Bytes := 0x0A :: List.replicate (2 * level) 0x20

mutual

/-- A value with one item or field a line; an empty container stays closed. -/
def indented (level : Nat) : Json → Bytes
  | .array [] => utf8 "[]"
  | .array xs => [0x5B] ++ indentedItems (level + 1) xs ++ newline level ++ [0x5D]
  | .object [] => utf8 "\x7b\x7d"
  | .object fs => [0x7B] ++ indentedFields (level + 1) fs ++ newline level ++ [0x7D]
  | .null => utf8 "null"
  | .bool b => if b then utf8 "true" else utf8 "false"
  | .number ds => ds
  | .string body => writeBody body

def indentedItems (level : Nat) : List Json → Bytes
  | [] => []
  | [x] => newline level ++ indented level x
  | x :: xs => newline level ++ indented level x ++ [0x2C] ++ indentedItems level xs

def indentedFields (level : Nat) : List (Bytes × Json) → Bytes
  | [] => []
  | [(k, v)] => newline level ++ writeBody k ++ [0x3A, 0x20] ++ indented level v
  | (k, v) :: fs =>
    newline level ++ writeBody k ++ [0x3A, 0x20] ++ indented level v ++ [0x2C] ++
      indentedFields level fs

end

end Json

end CallAssist
