import CallAssist.Json.Basic
import CallAssist.Text.Quoted

/-!
The text that a JSON string stands for, and the string that stands for a text.
-/

namespace CallAssist

namespace Json

def hex4 (a b c d : UInt8) : Nat :=
  [a, b, c, d].foldl (fun n x => n * 16 + (Bytes.digitValue? x).getD 0) 0

def isHighHalf (n : Nat) : Bool := 0xD800 ≤ n && n < 0xDC00

def isLowHalf (n : Nat) : Bool := 0xDC00 ≤ n && n < 0xE000

def escapedByte (b : UInt8) : UInt8 :=
  if b == 0x62 then 0x08
  else if b == 0x66 then 0x0C
  else if b == 0x6E then 0x0A
  else if b == 0x72 then 0x0D
  else if b == 0x74 then 0x09
  else b

/-- A piece of a string body: a UTF-16 unit given by its number, or a byte. -/
inductive Piece where
  | unit (n : Nat)
  | byte (b : UInt8)

def pieces : Bytes → List Piece
  | [] => []
  | 0x5C :: 0x75 :: a :: b :: c :: d :: t => .unit (hex4 a b c d) :: pieces t
  | 0x5C :: b :: t => .byte (escapedByte b) :: pieces t
  | b :: t => .byte b :: pieces t

/-- The bytes of one unit; a surrogate half is the replacement character. -/
def unitBytes (n : Nat) : Bytes :=
  if isHighHalf n || isLowHalf n then String.utf8EncodeChar '\ufffd'
  else String.utf8EncodeChar (Char.ofNat n)

def pieceBytes : List Piece → Bytes
  | [] => []
  | .byte b :: ps => b :: pieceBytes ps
  | .unit n :: .unit m :: ps =>
    if isHighHalf n && isLowHalf m then
      String.utf8EncodeChar (Char.ofNat (0x10000 + (n - 0xD800) * 0x400 + (m - 0xDC00))) ++
        pieceBytes ps
    else unitBytes n ++ pieceBytes (.unit m :: ps)
  | .unit n :: ps => unitBytes n ++ pieceBytes ps

def scrub (t : Bytes) : Bytes := Bytes.ofChars (Bytes.chars t)

def textOfBody (body : Bytes) : Bytes := scrub (pieceBytes (pieces body))

def bodyOfRune : Rune → Bytes
  | .stray _ => utf8 "\\ufffd"
  | .point c =>
    let n := c.toNat
    if n == 0x22 || n == 0x5C then [0x5C, n.toUInt8]
    else if n == 0x08 then utf8 "\\b"
    else if n == 0x0C then utf8 "\\f"
    else if n == 0x0A then utf8 "\\n"
    else if n == 0x0D then utf8 "\\r"
    else if n == 0x09 then utf8 "\\t"
    else if n < 0x20 then utf8 "\\u00" ++ Bytes.hex2 n
    else String.utf8EncodeChar c

def bodyOfText (t : Bytes) : Bytes := (Bytes.runes t).flatMap bodyOfRune

def ofText (t : Bytes) : Json := .string (bodyOfText t)

def ofInt (n : Int) : Json := .number (Bytes.ofInt n)

def ofNat (n : Nat) : Json := .number (Bytes.ofNat n)

def field (key : String) (value : Json) : Bytes × Json := (utf8 key, value)

mutual

def respelled : Json → Json
  | .string body => ofText (textOfBody body)
  | .array xs => .array (respelledItems xs)
  | .object fs => .object (respelledFields fs)
  | v => v

def respelledItems : List Json → List Json
  | [] => []
  | x :: xs => respelled x :: respelledItems xs

def respelledFields : List (Bytes × Json) → List (Bytes × Json)
  | [] => []
  | (k, v) :: fs => (bodyOfText (textOfBody k), respelled v) :: respelledFields fs

end

end Json

end CallAssist
