/-!
Texts as byte lists, with the cuts and joins the other modules share.
-/

namespace CallAssist

/-- A text as it is stored and sent: bytes, whether or not they are well-formed UTF-8. -/
abbrev Bytes := List UInt8

def utf8 (s : String) : Bytes := s.toList.flatMap String.utf8EncodeChar

namespace Bytes

def ofNat (n : Nat) : Bytes := (Nat.toDigits 10 n).map fun c => c.toNat.toUInt8

def ofInt : Int → Bytes
  | .ofNat n => ofNat n
  | .negSucc n => 0x2D :: ofNat (n + 1)

def dropFront? (front t : Bytes) : Option Bytes :=
  if front.isPrefixOf t then some (t.drop front.length) else none

def endsWith (back t : Bytes) : Bool := back.reverse.isPrefixOf t.reverse

/-- The pieces between occurrences of `sep`; there is always at least one. -/
def split (sep : UInt8) : Bytes → List Bytes
  | [] => [[]]
  | b :: t =>
    if b = sep then [] :: split sep t
    else match split sep t with
      | [] => [[b]]
      | p :: ps => (b :: p) :: ps

def join (sep : Bytes) : List Bytes → Bytes
  | [] => []
  | [p] => p
  | p :: ps => p ++ sep ++ join sep ps

def cut (sep : UInt8) (t : Bytes) : Option (Bytes × Bytes) :=
  match t.dropWhile (· != sep) with
  | [] => none
  | _ :: after => some (t.takeWhile (· != sep), after)

def cutLast (sep : UInt8) (t : Bytes) : Option (Bytes × Bytes) :=
  match t.reverse.dropWhile (· != sep) with
  | [] => none
  | _ :: before => some (before.reverse, (t.reverse.takeWhile (· != sep)).reverse)

def replace (old : UInt8) (new : Bytes) (t : Bytes) : Bytes :=
  t.flatMap fun b => if b = old then new else [b]

/-- Byte-wise order, a shorter text before its extensions. -/
def le : Bytes → Bytes → Bool
  | [], _ => true
  | _ :: _, [] => false
  | a :: s, b :: t => if a = b then le s t else a < b

def isUpper (b : UInt8) : Bool := 0x41 ≤ b && b ≤ 0x5A

def isLower (b : UInt8) : Bool := 0x61 ≤ b && b ≤ 0x7A

def isDigit (b : UInt8) : Bool := 0x30 ≤ b && b ≤ 0x39

def digitValue? (b : UInt8) : Option Nat :=
  if isDigit b then some (b.toNat - 0x30)
  else if isLower b then some (b.toNat - 0x61 + 10)
  else if isUpper b then some (b.toNat - 0x41 + 10)
  else none

def lowerByte (b : UInt8) : UInt8 := if isUpper b then b + 0x20 else b

def upperByte (b : UInt8) : UInt8 := if isLower b then b - 0x20 else b

/-- ASCII letters in lower case; other bytes are kept. -/
def toLower (t : Bytes) : Bytes := t.map lowerByte

/-- ASCII letters in upper case; other bytes are kept. -/
def toUpper (t : Bytes) : Bytes := t.map upperByte

def isWord (b : UInt8) : Bool := isLower b || isUpper b || isDigit b || b == 0x5F

def isIdentifier (t : Bytes) : Bool := !t.isEmpty && t.all isWord

def trailingWord (t : Bytes) : Bytes := (t.reverse.takeWhile isWord).reverse

def hex2 (n : Nat) : Bytes :=
  let digit (d : Nat) : UInt8 := (if d < 10 then 0x30 + d else 0x57 + d).toUInt8
  [digit (n / 16 % 16), digit (n % 16)]

end Bytes

end CallAssist
