import CallAssist.Text.Rune

/-!
A YAML text as it is read: in portions of a fixed number of bytes, each decoded as a whole. A text
in UTF-16 announces itself by its byte order mark; anything else is UTF-8. What cannot be read in a
portion does no harm until that portion is asked for.
-/

namespace CallAssist

namespace Yaml

def isAllowed (c : Char) : Bool :=
  let n := c.toNat
  n == 0x09 || n == 0x0A || n == 0x0D || (0x20 ≤ n && n ≤ 0x7E) || n == 0x85 ||
    (0xA0 ≤ n && n ≤ 0xFFFD) || 0x10000 ≤ n

/-- What stands at the front of some bytes: a character, the beginning of one, or neither. -/
inductive Front where
  | char (c : Char) (rest : Bytes)
  | cut
  | fault

def Front.ofChar? (c : Option Char) (rest : Bytes) : Front :=
  match c with
  | some c => .char c rest
  | none => .fault

def sequenceLength? (n : Nat) : Option Nat :=
  if n < 0x80 then some 1
  else if n / 32 == 6 then some 2
  else if n / 16 == 14 then some 3
  else if n / 8 == 30 then some 4
  else none

def narrowFront : Bytes → Front
  | [] => .cut
  | a :: t => match sequenceLength? a.toNat, t with
    | none, _ => .fault
    | some 1, t => .char (Char.ofNat a.toNat) t
    | some 2, b :: t => .ofChar? (Bytes.pair? a b) t
    | some 3, b :: c :: t => .ofChar? (Bytes.triple? a b c) t
    | some 4, b :: c :: d :: t => .ofChar? (Bytes.quad? a b c d) t
    | some _, _ => .cut

/-- The front of a text in 16-bit units; a surrogate needs its partner. -/
def wideFront (lowFirst : Bool) : Bytes → Front
  | a :: b :: t =>
    let unit (a b : UInt8) : Nat :=
      if lowFirst then b.toNat * 256 + a.toNat else a.toNat * 256 + b.toNat
    let n := unit a b
    if 0xDC00 ≤ n && n < 0xE000 then .fault
    else if 0xD800 ≤ n && n < 0xDC00 then
      match t with
      | c :: d :: t =>
        let m := unit c d
        if 0xDC00 ≤ m && m < 0xE000 then
          .char (Char.ofNat (0x10000 + (n - 0xD800) * 0x400 + (m - 0xDC00))) t
        else .fault
      | _ => .cut
    else .char (Char.ofNat n) t
  | _ => .cut

/-- Characters read off some bytes, the bytes left, and whether these cannot be read. -/
structure Decoded where
  chars : List Char
  left : Bytes
  faulty : Bool

def decodeFrom (front : Bytes → Front) : Nat → List Char → Bytes → Decoded
  | 0, cs, t => ⟨cs.reverse, t, false⟩
  | fuel + 1, cs, t =>
    if t.isEmpty then ⟨cs.reverse, [], false⟩
    else match front t with
      | .char c rest =>
        if isAllowed c then decodeFrom front fuel (c :: cs) rest else ⟨cs.reverse, t, true⟩
      | .cut => ⟨cs.reverse, t, false⟩
      | .fault => ⟨cs.reverse, t, true⟩

def decode (front : Bytes → Front) (t : Bytes) : Decoded := decodeFrom front (t.length + 1) [] t

/-- A portion of a text; a faulty one cannot be read. -/
structure Portion where
  chars : List Char
  faulty : Bool

namespace Portion

def size : Nat := 512

/-- The portions of a text: the bytes at hand, with a character cut off at their end carried over,
and those behind them. The last portion is the one that finds the end. -/
def split (front : Bytes → Front) : Nat → Bytes → Bytes → List Portion
  | 0, _, _ => []
  | fuel + 1, atHand, behind =>
    let d := decode front atHand
    if d.faulty then [⟨d.chars, true⟩]
    else if behind.isEmpty then [⟨d.chars, false⟩, ⟨[], !d.left.isEmpty⟩]
    else
      let room := size - d.left.length
      ⟨d.chars, false⟩ :: split front fuel (d.left ++ behind.take room) (behind.drop room)

end Portion

def encoding : Bytes → (Bytes → Front) × Nat
  | 0xFF :: 0xFE :: _ => (wideFront true, 2)
  | 0xFE :: 0xFF :: _ => (wideFront false, 2)
  | 0xEF :: 0xBB :: 0xBF :: _ => (narrowFront, 3)
  | _ => (narrowFront, 0)

def portions (t : Bytes) : List Portion :=
  let (front, mark) := encoding t
  if t.length < 3 then
    let d := decode front (t.drop mark)
    [⟨d.chars, d.faulty || !d.left.isEmpty⟩]
  else
    Portion.split front (t.length + 1) ((t.take Portion.size).drop mark) (t.drop Portion.size)

end Yaml

end CallAssist
