import CallAssist.Text.Bytes

/-!
Texts read as characters. A byte that starts no well-formed UTF-8 sequence is a rune of its own,
so every text has exactly one reading and no byte is lost.
-/

namespace CallAssist

/-- A character, or a byte that belongs to none. -/
inductive Rune where
  | point (c : Char)
  | stray (b : UInt8)
  deriving DecidableEq, Repr

namespace Rune

def bytes : Rune → Bytes
  | .point c => String.utf8EncodeChar c
  | .stray b => [b]

/-- Columns count UTF-16 code units: two for a character beyond the basic plane, one otherwise. -/
def units : Rune → Nat
  | .point c => if c.val < 0x10000 then 1 else 2
  | .stray _ => 1

def char : Rune → Char
  | .point c => c
  | .stray _ => '\ufffd'

def isPoint : Rune → Bool
  | .point _ => true
  | .stray _ => false

end Rune

namespace Bytes

def isTail (b : UInt8) : Bool := 0x80 ≤ b && b < 0xC0

def low6 (b : UInt8) : Nat := b.toNat % 64

def pair? (a b : UInt8) : Option Char :=
  if 0xC2 ≤ a && a < 0xE0 && isTail b then some (Char.ofNat (a.toNat % 32 * 64 + low6 b))
  else none

/-- The character of a well-formed three-byte sequence: shortest form, no surrogate. -/
def triple? (a b c : UInt8) : Option Char :=
  if 0xE0 ≤ a && a < 0xF0 && isTail b && isTail c then
    let n := a.toNat % 16 * 4096 + low6 b * 64 + low6 c
    if n < 0x800 || (0xD800 ≤ n && n < 0xE000) then none else some (Char.ofNat n)
  else none

/-- The character of a well-formed four-byte sequence: shortest form, at most U+10FFFF. -/
def quad? (a b c d : UInt8) : Option Char :=
  if 0xF0 ≤ a && a < 0xF5 && isTail b && isTail c && isTail d then
    let n := a.toNat % 8 * 262144 + low6 b * 4096 + low6 c * 64 + low6 d
    if n < 0x10000 || 0x110000 ≤ n then none else some (Char.ofNat n)
  else none

def runes : Bytes → List Rune
  | [] => []
  | a :: t =>
    if a < 0x80 then .point (Char.ofNat a.toNat) :: runes t
    else match t with
      | [] => [.stray a]
      | b :: t₁ => match pair? a b with
        | some ch => .point ch :: runes t₁
        | none => match t₁ with
          | [] => .stray a :: runes [b]
          | c :: t₂ => match triple? a b c with
            | some ch => .point ch :: runes t₂
            | none => match t₂ with
              | [] => .stray a :: runes [b, c]
              | d :: t₃ => match quad? a b c d with
                | some ch => .point ch :: runes t₃
                | none => .stray a :: runes (b :: c :: d :: t₃)

def ofRunes (rs : List Rune) : Bytes := rs.flatMap Rune.bytes

def ofChars (cs : List Char) : Bytes := cs.flatMap String.utf8EncodeChar

def chars (t : Bytes) : List Char := (runes t).map Rune.char

def isUtf8 (t : Bytes) : Bool := (runes t).all Rune.isPoint

/-- The byte offset of a UTF-16 column: the end of the shortest whole-rune part of the text that
has at least that many units, or the end of the text. A negative column is read as column 0, so
columns are natural numbers here. -/
def offsetOfColumn (t : Bytes) (column : Nat) : Nat := go (runes t) 0
where
  go : List Rune → Nat → Nat
    | [], _ => 0
    | r :: rs, units => if column ≤ units then 0 else r.bytes.length + go rs (units + r.units)

/-- The UTF-16 column of a byte offset: the units of the runes that start before it. No rune
starts before a negative offset, which is read as offset 0. -/
def columnOfOffset (t : Bytes) (offset : Nat) : Nat := go (runes t) 0
where
  go : List Rune → Nat → Nat
    | [], _ => 0
    | r :: rs, start => if offset ≤ start then 0 else r.units + go rs (start + r.bytes.length)

end Bytes

end CallAssist
