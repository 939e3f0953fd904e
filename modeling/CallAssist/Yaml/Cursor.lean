import CallAssist.Yaml.Source

/-!
A place in a YAML text, with the characters from there on that have been read so far. Whoever looks
ahead says how far, and only then is more of the text read.
-/

namespace CallAssist

namespace Yaml

def isBlank (c : Char) : Bool := c == ' ' || c == '\t'

def isBreak (c : Char) : Bool :=
  c == '\n' || c == '\r' || c == '\u0085' || c == '\u2028' || c == '\u2029'

def startsBlank : List Char → Bool
  | [] => true
  | c :: _ => isBlank c || isBreak c

def startsBreak : List Char → Bool
  | [] => true
  | c :: _ => isBreak c

def isNameChar (c : Char) : Bool := c.isAlphanum || c == '_' || c == '-'

def startsMark (mark : Char) : List Char → Bool
  | a :: b :: c :: t => a == mark && b == mark && c == mark && startsBlank t
  | _ => false

/-- A place in a text. `ahead` holds the characters that have been read from there on, `unread`
their number and that of the times the end was met behind them, and `behind` what is still to be
read. `atMark` tells that the last portion was added behind a byte order mark. No walk over the
text takes more than `bound` steps. -/
structure Cursor where
  ahead : List Char
  unread : Nat
  behind : List Portion
  atMark : Bool
  index : Nat
  line : Nat
  column : Nat
  bound : Nat

namespace Cursor

def ofBytes (t : Bytes) : Cursor := ⟨[], 0, portions t, false, 0, 0, 0, t.length + 2⟩

def load (n : Nat) (c : Cursor) : List Portion → Option Cursor
  | [] => some { c with unread := c.unread + 1, behind := [] }
  | p :: ps =>
    if p.faulty then none
    else
      let c := { c with
        ahead := c.ahead ++ p.chars, unread := c.unread + p.chars.length, behind := ps }
      if ps.isEmpty then some { c with unread := c.unread + 1 }
      else if n ≤ c.unread then some c
      else load n c ps

/-- So many characters made available, if they can be read. Behind the end there are always
more. -/
def need (n : Nat) (c : Cursor) : Option Cursor :=
  if n ≤ c.unread then some c
  else (c.load n c.behind).map fun c => { c with atMark := c.ahead.head? == some '\ufeff' }

def advance (c : Cursor) (n : Nat) : Cursor :=
  { c with ahead := c.ahead.drop n, unread := c.unread - n, index := c.index + n,
           column := c.column + n }

/-- Characters passed as long as `p` holds of the text from there on. After each of them `n` more
are made available. -/
def passFrom (n : Nat) (p : List Char → Bool) :
    Nat → List Char → Cursor → Option (List Char × Cursor)
  | 0, cs, c => some (cs.reverse, c)
  | fuel + 1, cs, c => match c.ahead with
    | [] => some (cs.reverse, c)
    | x :: _ =>
      if p c.ahead then
        match (c.advance 1).need n with
        | none => none
        | some c => passFrom n p fuel (x :: cs) c
      else some (cs.reverse, c)

def pass (p : Char → Bool) (c : Cursor) : Option (List Char × Cursor) := do
  let c ← c.need 1
  passFrom 1 (fun t => (t.head?.map p).getD false) c.bound [] c

def skip (p : Char → Bool) (c : Cursor) : Option Cursor := (c.pass p).map (·.2)

def nextLine (c : Cursor) (n : Nat) : Cursor :=
  { c with ahead := c.ahead.drop n, unread := c.unread - n, index := c.index + n,
           line := c.line + 1, column := 0 }

/-- The line break at a place passed, with what it stands for: a separator stands for itself and
any other break for a line feed. -/
def lineBreak (c : Cursor) : List Char × Cursor :=
  match c.ahead with
  | '\r' :: '\n' :: _ => (['\n'], c.nextLine 2)
  | x :: _ =>
    if isBreak x then
      ([if x == '\u2028' || x == '\u2029' then x else '\n'], c.nextLine 1)
    else ([], c)
  | [] => ([], c)

def readBreak (c : Cursor) : Option (List Char × Cursor) := (c.need 2).map lineBreak

def skipBreak (c : Cursor) : Option Cursor := c.readBreak.map (·.2)

def head? (c : Cursor) : Option Char := c.ahead.head?

def isAtBreak (c : Cursor) : Bool := (c.head?.map isBreak).getD false

def isAtBlank (c : Cursor) : Bool := (c.head?.map isBlank).getD false

def isAtLineEnd (c : Cursor) : Bool := startsBreak c.ahead

def isAtMarkLine (c : Cursor) : Bool :=
  c.column == 0 && (startsMark '-' c.ahead || startsMark '.' c.ahead)

def skipLine (c : Cursor) : Option Cursor := c.skip (!isBreak ·)

def skipOver : Nat → Cursor → Option Cursor
  | 0, c => some c
  | n + 1, c =>
    if c.isAtBreak then
      match c.skipBreak with
      | none => none
      | some d => skipOver (n - (d.index - c.index - 1)) d
    else skipOver n (c.advance 1)

end Cursor

end Yaml

end CallAssist
