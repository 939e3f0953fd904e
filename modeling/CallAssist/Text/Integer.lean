import CallAssist.Text.Bytes

/-!
Integers read from text into a 64-bit range. A digit that leaves the range is reported before
anything that follows it is looked at.
-/

namespace CallAssist

namespace Integer

/-- Why a text is not an integer: it is not written as one, or its value does not fit. -/
inductive Fault where
  | form
  | range
  deriving DecidableEq, Repr

def Fault.message : Fault → Bytes
  | .form => utf8 "invalid syntax"
  | .range => utf8 "value out of range"

/-- Digits of a base read from the left; no value above `bound` is passed. Underscores are skipped
where `loose` allows them. -/
def digits (base bound : Nat) (loose : Bool) : Nat → Bytes → Except Fault Nat
  | n, [] => .ok n
  | n, b :: t =>
    if loose && b == 0x5F then digits base bound loose n t
    else match Bytes.digitValue? b with
      | none => .error .form
      | some d =>
        if base ≤ d then .error .form
        else if bound < n * base + d then .error .range
        else digits base bound loose (n * base + d) t

def sign : Bytes → Bool × Bytes
  | 0x2B :: t => (false, t)
  | 0x2D :: t => (true, t)
  | t => (false, t)

def wordMax : Nat := 0xFFFFFFFFFFFFFFFF

def signed (negative : Bool) (n : Nat) : Except Fault Int :=
  if negative then if n ≤ 0x8000000000000000 then .ok (-(n : Int)) else .error .range
  else if n < 0x8000000000000000 then .ok n else .error .range

def decimalNat (t : Bytes) : Except Fault Nat :=
  if t.isEmpty then .error .form else digits 10 wordMax false 0 t

def decimal (t : Bytes) : Except Fault Int := do
  let (negative, t) := sign t
  signed negative (← decimalNat t)

def base : Bytes → Nat × Bytes
  | 0x30 :: b :: c :: t =>
    if Bytes.lowerByte b == 0x62 then (2, c :: t)
    else if Bytes.lowerByte b == 0x6F then (8, c :: t)
    else if Bytes.lowerByte b == 0x78 then (16, c :: t)
    else (8, b :: c :: t)
  | 0x30 :: t => (8, t)
  | t => (10, t)

/-- Underscores may only stand between digits, the mark of the base counting as one. -/
def underscoresFit (t : Bytes) : Bool :=
  let t := (sign t).2
  let (hex, afterDigit, t) := match t with
    | 0x30 :: b :: r =>
      let b := Bytes.lowerByte b
      if b == 0x62 || b == 0x6F || b == 0x78 then (b == 0x78, true, r) else (false, false, t)
    | t => (false, false, t)
  go hex afterDigit false t
where
  go (hex : Bool) : Bool → Bool → Bytes → Bool
    | _, open_, [] => !open_
    | afterDigit, open_, b :: t =>
      let l := Bytes.lowerByte b
      if Bytes.isDigit b || (hex && 0x61 ≤ l && l ≤ 0x66) then go hex true false t
      else if b == 0x5F then afterDigit && go hex false true t
      else !open_ && go hex false false t

/-- A number whose base is announced by `0x`, `0o`, `0b` or a leading zero, without a sign. -/
def literalNat (t : Bytes) : Except Fault Nat := do
  if t.isEmpty then .error .form
  else
    let (b, ds) := base t
    let n ← digits b wordMax true 0 ds
    if t.contains 0x5F && !underscoresFit t then .error .form else .ok n

def literal (t : Bytes) : Except Fault Int := do
  let (negative, t) := sign t
  signed negative (← literalNat t)

end Integer

end CallAssist
