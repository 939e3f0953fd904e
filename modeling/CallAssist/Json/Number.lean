import CallAssist.Json.Basic
import CallAssist.Text.Integer

/-!
What a JSON number is worth to a reader: an integer of a given width, or a value that fits a
double-precision number.
-/

namespace CallAssist

namespace Json

/-- A decimal spelling as digits and a power of ten: the value is `digits * 10 ^ power`. -/
structure Scaled where
  digits : Nat
  power : Int
  deriving Repr

def Scaled.ofNumber (t : Bytes) : Scaled :=
  let t := match t with
    | 0x2D :: u => u
    | u => u
  let mantissa := t.takeWhile fun b => !(b == 0x65 || b == 0x45)
  let exponent := (t.dropWhile fun b => !(b == 0x65 || b == 0x45)).drop 1
  let fraction := (mantissa.dropWhile (· != 0x2E)).drop 1
  let value (ds : Bytes) : Nat := ds.foldl (fun n b => n * 10 + (Bytes.digitValue? b).getD 0) 0
  let (negative, ds) := Integer.sign exponent
  let e : Int := value ds
  ⟨value (mantissa.filter Bytes.isDigit), (if negative then -e else e) - fraction.length⟩

/-- The least magnitude that is too large for a double-precision number: halfway between the
largest finite one and the next power of two. -/
def doubleBound : Nat := Nat.pow 2 1024 - Nat.pow 2 970

/-- Whether a spelled number fits a double-precision number. Far exponents are settled by the
number of digits alone. -/
def fitsDouble (t : Bytes) : Bool :=
  let s := Scaled.ofNumber t
  if s.digits = 0 then true
  else
    let top : Int := (Nat.toDigits 10 s.digits).length + s.power
    if top < 300 then true
    else if 310 < top then false
    else if 0 ≤ s.power then s.digits * Nat.pow 10 s.power.toNat < doubleBound
    else s.digits < doubleBound * Nat.pow 10 (-s.power).toNat

mutual

def numbersFit : Json → Bool
  | .number ds => fitsDouble ds
  | .array xs => numbersFitItems xs
  | .object fs => numbersFitFields fs
  | _ => true

def numbersFitItems : List Json → Bool
  | [] => true
  | x :: xs => numbersFit x && numbersFitItems xs

def numbersFitFields : List (Bytes × Json) → Bool
  | [] => true
  | (_, v) :: fs => numbersFit v && numbersFitFields fs

end

end Json

end CallAssist
