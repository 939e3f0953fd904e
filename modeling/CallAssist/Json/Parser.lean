import CallAssist.Json.Basic

/-!
Reading JSON text.
-/

namespace CallAssist

namespace Json

def isSpace (b : UInt8) : Bool := b == 0x20 || b == 0x09 || b == 0x0A || b == 0x0D

def skipSpace (t : Bytes) : Bytes := t.dropWhile isSpace

def isHex (b : UInt8) : Bool := match Bytes.digitValue? b with
  | some d => d < 16
  | none => false

def isEscape (b : UInt8) : Bool := (utf8 "\"\\/bfnrt").contains b

/-- The body of a string and what follows its closing quote; the opening quote is already read. -/
def readBody : Bytes → Option (Bytes × Bytes)
  | [] => none
  | 0x22 :: t => some ([], t)
  | 0x5C :: 0x75 :: a :: b :: c :: d :: t =>
    if isHex a && isHex b && isHex c && isHex d then
      (readBody t).map fun (s, r) => (0x5C :: 0x75 :: a :: b :: c :: d :: s, r)
    else none
  | 0x5C :: e :: t =>
    if isEscape e then (readBody t).map fun (s, r) => (0x5C :: e :: s, r) else none
  | b :: t => if b < 0x20 then none else (readBody t).map fun (s, r) => (b :: s, r)

def readDigits (t : Bytes) : Option (Bytes × Bytes) :=
  let ds := t.takeWhile Bytes.isDigit
  if ds.isEmpty then none else some (ds, t.dropWhile Bytes.isDigit)

def readWhole : Bytes → Option (Bytes × Bytes)
  | 0x30 :: t => some ([0x30], t)
  | t => readDigits t

def readFraction : Bytes → Option (Bytes × Bytes)
  | 0x2E :: t => (readDigits t).map fun (ds, r) => (0x2E :: ds, r)
  | t => some ([], t)

def readExponent : Bytes → Option (Bytes × Bytes)
  | [] => some ([], [])
  | e :: t =>
    if e == 0x65 || e == 0x45 then
      match t with
      | [] => none
      | s :: u =>
        if s == 0x2B || s == 0x2D then (readDigits u).map fun (ds, r) => (e :: s :: ds, r)
        else (readDigits t).map fun (ds, r) => (e :: ds, r)
    else some ([], e :: t)

def readNumber (t : Bytes) : Option (Bytes × Bytes) := do
  let (minus, t) := match t with
    | 0x2D :: u => ([0x2D], u)
    | u => (([] : Bytes), u)
  let (whole, t) ← readWhole t
  let (fraction, t) ← readFraction t
  let (exponent, t) ← readExponent t
  return (minus ++ whole ++ fraction ++ exponent, t)

def readScalar (t : Bytes) : Option (Json × Bytes) :=
  match Bytes.dropFront? (utf8 "null") t with
  | some r => some (.null, r)
  | none => match Bytes.dropFront? (utf8 "true") t with
    | some r => some (.bool true, r)
    | none => match Bytes.dropFront? (utf8 "false") t with
      | some r => some (.bool false, r)
      | none => (readNumber t).map fun (ds, r) => (.number ds, r)

mutual

/-- A value and what follows it. `fuel` bounds the calls, `depth` the containers that may still be
opened. -/
def readValue : Nat → Nat → Bytes → Option (Json × Bytes)
  | 0, _, _ => none
  | fuel + 1, depth, t =>
    match skipSpace t with
    | 0x22 :: t => (readBody t).map fun (s, r) => (.string s, r)
    | 0x5B :: t =>
      if depth = 0 then none
      else match skipSpace t with
        | 0x5D :: r => some (.array [], r)
        | t => (readItems fuel (depth - 1) t).map fun (xs, r) => (.array xs, r)
    | 0x7B :: t =>
      if depth = 0 then none
      else match skipSpace t with
        | 0x7D :: r => some (.object [], r)
        | t => (readFields fuel (depth - 1) t).map fun (fs, r) => (.object fs, r)
    | t => readScalar t

def readItems : Nat → Nat → Bytes → Option (List Json × Bytes)
  | 0, _, _ => none
  | fuel + 1, depth, t =>
    match readValue fuel depth t with
    | none => none
    | some (x, t) =>
      match skipSpace t with
      | 0x2C :: t => (readItems fuel depth t).map fun (xs, r) => (x :: xs, r)
      | 0x5D :: r => some ([x], r)
      | _ => none

def readFields : Nat → Nat → Bytes → Option (List (Bytes × Json) × Bytes)
  | 0, _, _ => none
  | fuel + 1, depth, t =>
    match skipSpace t with
    | 0x22 :: t =>
      match readBody t with
      | none => none
      | some (key, t) =>
        match skipSpace t with
        | 0x3A :: t =>
          match readValue fuel depth t with
          | none => none
          | some (v, t) =>
            match skipSpace t with
            | 0x2C :: t => (readFields fuel depth t).map fun (fs, r) => ((key, v) :: fs, r)
            | 0x7D :: r => some ([(key, v)], r)
            | _ => none
        | _ => none
    | _ => none

end

def parse (t : Bytes) : Option Json :=
  match readValue (2 * t.length + 2) maxDepth t with
  | some (v, r) => if (skipSpace r).isEmpty then some v else none
  | none => none

end Json

end CallAssist
