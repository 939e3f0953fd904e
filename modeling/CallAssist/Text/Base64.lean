import CallAssist.Text.Bytes

/-!
Reading bytes written in base 64.
-/

namespace CallAssist

namespace Base64

def digit? (b : UInt8) : Option Nat :=
  if Bytes.isUpper b then some (b.toNat - 0x41)
  else if Bytes.isLower b then some (b.toNat - 0x61 + 26)
  else if Bytes.isDigit b then some (b.toNat - 0x30 + 52)
  else if b == 0x2B then some 62
  else if b == 0x2F then some 63
  else none

/-- The bytes of a group of digits; the bits left over are ignored. -/
def group? (ds : List UInt8) : Option Bytes := do
  let vs ← ds.mapM digit?
  let n := (vs ++ List.replicate (4 - vs.length) 0).foldl (fun n v => n * 64 + v) 0
  return [(n / 65536).toUInt8, (n / 256 % 256).toUInt8, (n % 256).toUInt8].take (ds.length - 1)

def groups? : Bytes → Option Bytes
  | [] => some []
  | [a, b, 0x3D, 0x3D] => group? [a, b]
  | [a, b, c, 0x3D] => group? [a, b, c]
  | a :: b :: c :: d :: t => do
    let front ← group? [a, b, c, d]
    let rest ← groups? t
    return front ++ rest
  | _ => none

/-- The bytes of a text in base 64; line ends inside it are ignored. -/
def decode? (t : Bytes) : Option Bytes := groups? (t.filter fun b => b != 0x0A && b != 0x0D)

end Base64

end CallAssist
