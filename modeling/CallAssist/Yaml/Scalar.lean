import CallAssist.Text.Base64
import CallAssist.Text.Double
import CallAssist.Text.Integer
import CallAssist.Yaml.Node

/-!
What a scalar stands for. A plain one is a null, truth value, number, date or text by its look; a
tag must agree with that look.
-/

namespace CallAssist

namespace Yaml

/-- The value of a scalar. -/
inductive Atom where
  | null
  | bool (b : Bool)
  | int (n : Int)
  | float (x : Double)
  | time (text : Bytes)
  | text (t : Bytes)
  deriving DecidableEq, Repr

def Atom.tag : Atom → Bytes
  | .null => Tag.null
  | .bool _ => Tag.bool
  | .int _ => Tag.int
  | .float _ => Tag.float
  | .time _ => Tag.time
  | .text _ => Tag.string

def wordAtom? (t : Bytes) : Option Atom :=
  let among (ws : List String) : Bool := ws.any fun w => utf8 w == t
  if among ["", "~", "null", "Null", "NULL"] then some .null
  else if among ["true", "True", "TRUE"] then some (.bool true)
  else if among ["false", "False", "FALSE"] then some (.bool false)
  else if among [".nan", ".NaN", ".NAN"] then some (.float .nan)
  else if among [".inf", ".Inf", ".INF", "+.inf", "+.Inf", "+.INF"] then
    some (.float (.infinite false))
  else if among ["-.inf", "-.Inf", "-.INF"] then some (.float (.infinite true))
  else none

def digitsValue (ds : Bytes) : Nat := ds.foldl (fun n b => n * 10 + (b.toNat - 0x30)) 0

/-- A decimal number with an optional point and exponent, at least one digit before the exponent.
One too large for double precision is none. -/
def decimalFloat? (t : Bytes) : Option Double :=
  let (negative, t) := Integer.sign t
  let whole := t.takeWhile Bytes.isDigit
  let t := t.dropWhile Bytes.isDigit
  let (fraction, t) := match t with
    | 0x2E :: u => (u.takeWhile Bytes.isDigit, u.dropWhile Bytes.isDigit)
    | u => (([] : Bytes), u)
  if whole.isEmpty && fraction.isEmpty then none
  else
    let value (exponent : Int) : Option Double :=
      Double.ofDecimal? negative (digitsValue (whole ++ fraction)) (exponent - fraction.length)
    match t with
    | [] => value 0
    | e :: u =>
      if e == 0x65 || e == 0x45 then
        let (down, ds) := Integer.sign u
        if ds.isEmpty || !ds.all Bytes.isDigit then none
        else value (if down then -(digitsValue ds : Int) else digitsValue ds)
      else none

def shortNumber? : Bytes → Option (Nat × Bytes)
  | a :: b :: t =>
    if !Bytes.isDigit a then none
    else if Bytes.isDigit b then some (digitsValue [a, b], t)
    else some (digitsValue [a], b :: t)
  | [a] => if Bytes.isDigit a then some (digitsValue [a], []) else none
  | [] => none

def isLeapYear (year : Nat) : Bool := year % 4 == 0 && (year % 100 != 0 || year % 400 == 0)

def daysIn (year month : Nat) : Nat :=
  if month == 2 then if isLeapYear year then 29 else 28
  else if month == 4 || month == 6 || month == 9 || month == 11 then 30
  else 31

def dropFraction : Bytes → Bytes
  | p :: d :: t =>
    if (p == 0x2E || p == 0x2C) && Bytes.isDigit d then t.dropWhile Bytes.isDigit else p :: d :: t
  | t => t

def clock? (t : Bytes) : Option Bytes := do
  let (hour, t) ← shortNumber? t
  let t ← Bytes.dropFront? [0x3A] t
  let (minute, t) ← shortNumber? t
  let t ← Bytes.dropFront? [0x3A] t
  let (second, t) ← shortNumber? t
  if 24 ≤ hour || 60 ≤ minute || 60 ≤ second then none else some (dropFraction t)

def isZone : Bytes → Bool
  | [0x5A] => true
  | [s, a, b, 0x3A, c, d] =>
    (s == 0x2B || s == 0x2D) && [a, b, c, d].all Bytes.isDigit &&
      digitsValue [a, b] ≤ 24 && digitsValue [c, d] ≤ 60
  | _ => false

/-- What may follow a date: nothing, a time with a zone after the letter T, or a time without one
after blanks. -/
def isTimeOfDay : Bytes → Bool
  | [] => true
  | b :: t =>
    if b == 0x54 || b == 0x74 then ((clock? t).map isZone).getD false
    else if b == 0x20 then ((clock? (t.dropWhile (· == 0x20))).map List.isEmpty).getD false
    else false

def isTimestamp (t : Bytes) : Bool :=
  let year := t.takeWhile Bytes.isDigit
  if year.length != 4 then false
  else
    let date : Option (Nat × Nat × Bytes) := do
      let t ← Bytes.dropFront? [0x2D] (t.drop 4)
      let (month, t) ← shortNumber? t
      let t ← Bytes.dropFront? [0x2D] t
      let (day, t) ← shortNumber? t
      return (month, day, t)
    match date with
    | none => false
    | some (month, day, rest) =>
      1 ≤ month && month ≤ 12 && 1 ≤ day && day ≤ daysIn (digitsValue year) month &&
        isTimeOfDay rest

def baseNumber? (base : Nat) (negative : Bool) (ds : Bytes) : Option Int :=
  let number (ds : Bytes) : Option Nat :=
    if ds.isEmpty then none else (Integer.digits base Integer.wordMax false 0 ds).toOption
  if negative then (number ds).bind fun n => (Integer.signed true n).toOption
  else
    let (minus, rest) := Integer.sign ds
    match (number rest).bind fun n => (Integer.signed minus n).toOption with
    | some n => some n
    | none => (number ds).map Int.ofNat

def wholeNumber? (t : Bytes) : Option Int :=
  match (Integer.literal t).toOption with
  | some n => some n
  | none => (Integer.literalNat t).toOption.map Int.ofNat

def markedNumber? (t : Bytes) : Option Int :=
  let after (mark : String) (base : Nat) (negative : Bool) : Option (Option Int) :=
    (Bytes.dropFront? (utf8 mark) t).map (baseNumber? base negative)
  (((after "0b" 2 false).or (after "-0b" 2 true)).or
    ((after "0o" 8 false).or (after "-0o" 8 true))).join

/-- What a text that starts like a number stands for. Dates are only looked for where `dates` says
so; underscores in numbers are ignored. -/
def numberAtom? (dates : Bool) (t : Bytes) : Option Atom :=
  if dates && isTimestamp t then some (.time t)
  else
    let plain := t.filter (· != 0x5F)
    match wholeNumber? plain with
    | some n => some (.int n)
    | none => match decimalFloat? plain with
      | some x => some (.float x)
      | none => (markedNumber? plain).map .int

def pointFloat? (t : Bytes) : Option Double :=
  if Integer.underscoresFit t then decimalFloat? (t.filter (· != 0x5F)) else none

def atomOf (dates : Bool) (t : Bytes) : Atom :=
  match wordAtom? t with
  | some a => a
  | none => match t with
    | [] => .null
    | b :: _ =>
      if b == 0x2E then ((pointFloat? t).map Atom.float).getD (.text t)
      else if b == 0x2B || b == 0x2D || Bytes.isDigit b then (numberAtom? dates t).getD (.text t)
      else .text t

def plainTag (t : Bytes) : Bytes :=
  if t == utf8 "<<" then Tag.merge else (atomOf true t).tag

/-- The value of a tagged scalar; none when the tag does not agree with the text. A tag that is no
standard one leaves the text as it is. -/
def atom? (tag t : Bytes) : Option Atom :=
  if tag == Tag.string then some (.text t)
  else if tag == Tag.binary then (Base64.decode? t).map .text
  else if [Tag.bool, Tag.int, Tag.float, Tag.null, Tag.time].contains tag then
    let a := atomOf (tag == Tag.time) t
    if a.tag == tag then some a
    else match a with
      | .int n =>
        if tag == Tag.float && n < 0x8000000000000000 then
          (Double.ofDecimal? (n < 0) n.natAbs 0).map .float
        else none
      | _ => none
  else some (.text t)

def string? (tag t : Bytes) : Option (Option Bytes) :=
  match atom? tag t with
  | none => none
  | some .null => some none
  | some (.text s) => some (some s)
  | some _ => some (some t)

end Yaml

end CallAssist
