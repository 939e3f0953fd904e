import CallAssist.Text.Bytes

/-!
Double-precision numbers in exact arithmetic: the nearest one to a decimal, and the shortest decimal
that reads back.
-/

namespace CallAssist

/-- A double-precision number. A finite one is `mantissa * 2 ^ exponent`. -/
inductive Double where
  | nan
  | infinite (negative : Bool)
  | finite (negative : Bool) (mantissa : Nat) (exponent : Int)
  deriving DecidableEq, Repr

namespace Double

/-- A quotient rounded to the nearest whole number, a half to the even one. -/
def roundDiv (num den : Nat) : Nat :=
  let q := num / den
  let r := num % den
  if den < 2 * r || (2 * r == den && q % 2 == 1) then q + 1 else q

def scaleDown (num den : Nat) (e : Int) : Nat :=
  if 0 ≤ e then roundDiv num (den * Nat.pow 2 e.toNat)
  else roundDiv (num * Nat.pow 2 (-e).toNat) den

def ofQuotient? (negative : Bool) (num den : Nat) : Option Double :=
  let guess : Int := (num.log2 : Int) - den.log2 - 53
  let fit (e : Int) : Option (Nat × Int) :=
    let m := scaleDown num den e
    if m < 0x20000000000000 then some (m, e)
    else if m == 0x20000000000000 then some (0x10000000000000, e + 1)
    else none
  let candidates := [guess, guess + 1, guess + 2].map fun e => max e (-1074)
  match candidates.findSome? fit with
  | some (m, e) => if 971 < e then none else some (.finite negative m e)
  | none => none

def ofDecimal? (negative : Bool) (digits : Nat) (power : Int) : Option Double :=
  let size : Int := (Nat.toDigits 10 digits).length
  if digits == 0 || size + power < -400 then some (.finite negative 0 0)
  else if 400 < size + power then none
  else if 0 ≤ power then ofQuotient? negative (digits * Nat.pow 10 power.toNat) 1
  else ofQuotient? negative digits (Nat.pow 10 (-power).toNat)

def readsBack (m : Nat) (e : Int) (digits : Nat) (power : Int) : Bool :=
  match ofDecimal? false digits power with
  | some (.finite _ m' e') =>
    if e ≤ e' then m == m' * Nat.pow 2 (e' - e).toNat
    else m' == m * Nat.pow 2 (e - e').toNat
  | _ => false

def neighbours (m : Nat) (e power : Int) : List Nat :=
  let num := m * Nat.pow 2 e.toNat * Nat.pow 10 (-power).toNat
  let den := Nat.pow 2 (-e).toNat * Nat.pow 10 power.toNat
  let q := num / den
  let r := num % den
  if 2 * r < den || (2 * r == den && q % 2 == 0) then [q, q + 1] else [q + 1, q]

/-- The fewest digits that read back as a positive number, and their power of ten. Coarser powers
are tried first. -/
def shortestFrom (m : Nat) (e : Int) : Nat → Int → Nat × Int
  | 0, power => (m, power)
  | fuel + 1, power =>
    match (neighbours m e power).find? fun d => readsBack m e d power with
    | some d => (d, power)
    | none => shortestFrom m e fuel (power - 1)

def shortest (m : Nat) (e : Int) : Nat × Int :=
  let size : Int := (m.log2 : Int) + e
  shortestFrom m e 700 (size * 3 / 10 + 2)

def positional : Double → Bytes
  | .nan => utf8 "NaN"
  | .infinite negative => if negative then utf8 "-Inf" else utf8 "+Inf"
  | .finite negative m e =>
    let sign := if negative then utf8 "-" else []
    if m == 0 then sign ++ utf8 "0"
    else
      let (digits, power) := shortest m e
      let ds := Bytes.ofNat digits
      if 0 ≤ power then sign ++ ds ++ List.replicate power.toNat 0x30
      else
        let places := (-power).toNat
        let ds := List.replicate (places + 1 - ds.length) 0x30 ++ ds
        sign ++ ds.take (ds.length - places) ++ utf8 "." ++ ds.drop (ds.length - places)

def isZero : Double → Bool
  | .finite _ m _ => m == 0
  | _ => false

end Double

end CallAssist
