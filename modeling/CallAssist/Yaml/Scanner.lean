import CallAssist.Yaml.Directive
import CallAssist.Yaml.ScalarText

/-!
The tokens of a YAML text. A key in front of a colon is only known to be one when the colon is met,
so its token is put back in front of it. Tokens wait in a queue: the first of them is handed out
when two more are known behind it and it is not a key that may still turn out to be one. A fault in
the text is met only by the tokens that had to wait for it.
-/

namespace CallAssist

namespace Yaml

/-- A token that may turn out to be a key: whether it still may, whether the indentation leaves it
no other choice, its number and its place. -/
structure KeyPlace where
  possible : Bool
  required : Bool
  number : Nat
  index : Nat
  line : Nat
  column : Nat

def maxNesting : Nat := 10000

/-- A text partly scanned. `keys` has an entry for each open flow collection and one below them,
the innermost first. `queue` holds the tokens that wait, `handed` says how many were handed out
before them, and `waiting` gives the number of a token that may be a key with the level, counted
from the outermost, whose entry tells whether it is, the newest first. -/
structure Scanner where
  cursor : Cursor
  flow : Nat
  indent : Int
  indents : List Int
  keyAllowed : Bool
  keys : List KeyPlace
  waiting : List (Nat × Nat)
  queue : List Token
  handed : Nat

namespace Scanner

def start (t : Bytes) : Scanner :=
  ⟨.ofBytes t, 0, -1, [], true, [⟨false, false, 0, 0, 0, 0⟩], [], [], 0⟩

def inFlow (s : Scanner) : Bool := 0 < s.flow

def count (s : Scanner) : Nat := s.handed + s.queue.length

def push (s : Scanner) (t : Token) : Scanner := { s with queue := s.queue ++ [t] }

/-- A token put in front of the token of a given number, or at the end if that one was handed
out. -/
def insert (s : Scanner) (number : Nat) (t : Token) : Scanner :=
  if number < s.handed then s.push t
  else { s with queue := s.queue.insertIdx (number - s.handed) t }

def setKey (s : Scanner) (k : KeyPlace) : Scanner := { s with keys := k :: s.keys.tail }

/-- The entries that wait without that of a number; the numbers fall. -/
def withoutNumber (number : Nat) : List (Nat × Nat) → List (Nat × Nat)
  | [] => []
  | w :: ws =>
    if w.1 == number then ws
    else if w.1 < number then w :: ws
    else w :: withoutNumber number ws

def release (s : Scanner) (number : Nat) : Scanner :=
  { s with waiting := withoutNumber number s.waiting }

def dropKey (s : Scanner) : Option Scanner :=
  match s.keys with
  | k :: _ =>
    if !k.possible then some s
    else if k.required then none
    else some ((s.setKey { k with possible := false }).release k.number)
  | [] => some s

def keyHere (s : Scanner) (possible required : Bool) : KeyPlace :=
  ⟨possible, required, s.count, s.cursor.index, s.cursor.line, s.cursor.column⟩

def saveKey (s : Scanner) : Option Scanner :=
  if s.keyAllowed then do
    let k := s.keyHere true (!s.inFlow && s.indent == s.cursor.column)
    let s := (← s.dropKey).setKey k
    return { s with waiting := (k.number, s.keys.length - 1) :: s.waiting }
  else some s

/-- A key must be followed by its colon on the same line within 1024 characters. -/
def isFresh (s : Scanner) (k : KeyPlace) : Bool :=
  s.cursor.line ≤ k.line && s.cursor.index ≤ k.index + 1024

def unroll (column : Int) : Nat → Scanner → Scanner
  | 0, s => s
  | fuel + 1, s =>
    if s.inFlow || s.indent ≤ column then s
    else
      let s := s.push .blockEnd
      unroll column fuel { s with indent := s.indents.headD (-1), indents := s.indents.tail }

def unrollTo (s : Scanner) (column : Int) : Scanner := unroll column (s.indents.length + 1) s

/-- A block opened at a column, if it is indented more than the current one; its token goes in
front of the token of a given number. -/
def roll (s : Scanner) (column number : Nat) (t : Token) : Option Scanner :=
  if s.inFlow || (column : Int) ≤ s.indent then some s
  else if maxNesting ≤ s.indents.length then none
  else some { s.insert number t with indent := column, indents := s.indent :: s.indents }

def commentReach : Nat := 512

def commentAfter : Nat → Nat → Cursor → Option (Option Nat × Cursor)
  | 0, _, c => some (none, c)
  | fuel + 1, distance, c => do
    let c ← c.need (distance + 1)
    match c.ahead[distance]? with
    | some x =>
      if x == '#' then return (some distance, c)
      else if x == ' ' || x == '\t' || x == '\r' || x == '\n' then
        commentAfter fuel (distance + 1) c
      else if isBreak x then return (none, ← c.need (distance + 2))
      else return (none, c)
    | none => return (none, c)

/-- A comment passed, together with the comment lines after it. A line break of several bytes ends
them. -/
def skipComments : Nat → Cursor → Option Cursor
  | 0, c => some c
  | fuel + 1, c => do
    let c ← c.skipLine
    let c ← c.need 2
    if c.isAtBreak && c.head? != some '\n' && c.head? != some '\r' then return c
    else match ← commentAfter (commentReach - 1) 1 c with
      | (none, c) => return c
      | (some n, c) => skipComments fuel (← c.skipOver n)

/-- White space and comments passed. A line break allows a key again outside flow collections;
where a key may stand, a tab may not. -/
def toNextToken : Nat → Scanner → Option Scanner
  | 0, s => some s
  | fuel + 1, s => do
    let c ← s.cursor.need 1
    let c := if c.column == 0 && c.atMark then c.advance 1 else c
    let c ← c.skip fun x => x == ' ' || (x == '\t' && (s.inFlow || !s.keyAllowed))
    let c ← if c.head? == some '#' then skipComments c.bound c else some c
    if c.isAtBreak then
      let c ← c.skipBreak
      toNextToken fuel { s with cursor := c, keyAllowed := s.keyAllowed || !s.inFlow }
    else return { s with cursor := c }

def blanksAt : Nat → Nat → Cursor → Option (Nat × Cursor)
  | 0, n, c => some (n, c)
  | fuel + 1, n, c => do
    let c ← c.need (n + 1)
    if (c.ahead[n]?.map isBlank).getD false then blanksAt fuel (n + 1) c else return (n, c)

def skipTrailing (s : Scanner) : Option Scanner := do
  let (n, c) ← blanksAt commentReach 0 s.cursor
  if n < commentReach && c.ahead[n]? == some '#' then
    return { s with cursor := ← (c.advance n).skipLine }
  else return { s with cursor := c }

def indicator (s : Scanner) (t : Token) : Scanner :=
  { s.push t with cursor := s.cursor.advance 1 }

def endStream (s : Scanner) : Option Scanner := do
  let c := s.cursor
  let c := if c.column == 0 then c else { c with line := c.line + 1, column := 0 }
  let s ← ({ s with cursor := c }.unrollTo (-1)).dropKey
  return { s.push .streamEnd with keyAllowed := false }

def documentMark (s : Scanner) (t : Token) : Option Scanner :=
  (s.unrollTo (-1)).dropKey.map fun s =>
    { s.push t with keyAllowed := false, cursor := s.cursor.advance 3 }

def directiveLine (s : Scanner) : Option Scanner := do
  let s ← (s.unrollTo (-1)).dropKey
  let (t, c) ← directive s.cursor
  return { s.push t with keyAllowed := false, cursor := c }

def flowStart (s : Scanner) (t : Token) : Option Scanner := do
  let s ← s.saveKey
  if maxNesting ≤ s.flow then none
  else
    let s := { s with
      keys := s.keyHere false false :: s.keys, flow := s.flow + 1, keyAllowed := true }
    (s.indicator t).skipTrailing

/-- The current level left. The token that its entry names last is not waited for any more, which
is the opening one where the collection held no key. -/
def leaveFlow (s : Scanner) : Scanner :=
  if s.inFlow then
    let number := (s.keys.head?.map KeyPlace.number).getD s.count
    { s.release number with keys := s.keys.tail, flow := s.flow - 1 }
  else s

def flowEnd (s : Scanner) (t : Token) : Option Scanner := do
  let s ← s.dropKey
  ({ s.leaveFlow with keyAllowed := false }.indicator t).skipTrailing

def flowEntry (s : Scanner) : Option Scanner := do
  let s ← s.dropKey
  ({ s with keyAllowed := true }.indicator .flowEntry).skipTrailing

def blockEntry (s : Scanner) : Option Scanner := do
  if !s.inFlow && !s.keyAllowed then none
  else
    let s ← s.roll s.cursor.column s.count .blockSequenceStart
    let s ← s.dropKey
    return { s with keyAllowed := true }.indicator .blockEntry

def explicitKey (s : Scanner) : Option Scanner := do
  if !s.inFlow && !s.keyAllowed then none
  else
    let s ← s.roll s.cursor.column s.count .blockMappingStart
    let s ← s.dropKey
    ({ s with keyAllowed := !s.inFlow }.indicator .key).skipTrailing

def loneValue (s : Scanner) : Option Scanner := do
  if !s.inFlow && !s.keyAllowed then none
  else
    let s ← s.roll s.cursor.column s.count .blockMappingStart
    ({ s with keyAllowed := !s.inFlow }.indicator .value).skipTrailing

def valueMark (s : Scanner) : Option Scanner := do
  match s.keys with
  | [] => s.loneValue
  | k :: _ =>
    if !k.possible then s.loneValue
    else
      let settled := s.setKey { k with possible := false }
      if s.isFresh k then
        let s ← (settled.insert k.number .key).roll k.column k.number .blockMappingStart
        ({ s.release k.number with keyAllowed := false }.indicator .value).skipTrailing
      else if k.required then none
      else settled.loneValue

def anchor (s : Scanner) (make : Bytes → Token) : Option Scanner := do
  let s ← s.saveKey
  let (name, c) ← anchorName s.cursor
  { s.push (make name) with keyAllowed := false, cursor := c }.skipTrailing

def tag (s : Scanner) : Option Scanner := do
  let s ← s.saveKey
  let (t, c) ← tagToken s.cursor
  { s.push t with keyAllowed := false, cursor := c }.skipTrailing

def block (s : Scanner) (literal : Bool) : Option Scanner := do
  let s ← s.dropKey
  let r ← blockScalar literal s.indent s.cursor
  return { s.push (.scalar false (Bytes.ofChars r.text)) with keyAllowed := true, cursor := r.next }

def quoted (s : Scanner) (quote : Char) : Option Scanner := do
  let s ← s.saveKey
  let r ← quotedScalar quote s.cursor
  { s.push (.scalar false (Bytes.ofChars r.text)) with
    keyAllowed := false, cursor := r.next }.skipTrailing

def plainScalar (s : Scanner) : Option Scanner := do
  let s ← s.saveKey
  let r ← plain s.inFlow (s.indent + 1).toNat s.cursor
  let s := { s.push (.scalar true (Bytes.ofChars r.text)) with
    keyAllowed := r.broken, cursor := r.next }
  if r.broken then return s else s.skipTrailing

def startsPlain (inFlow : Bool) (c : Char) (t : List Char) : Bool :=
  !(isBlank c || isBreak c || "-?:,[]\x7b\x7d#&*!|>'\"%@`".toList.contains c) ||
    (c == '-' && !(t.head?.map isBlank).getD false) ||
    (!inFlow && (c == '?' || c == ':') && !startsBlank t)

/-- The token at the cursor, with the blocks that it opens; none at a fault. -/
def token (s : Scanner) : Option Scanner :=
  let c := s.cursor
  match c.ahead with
  | [] => s.endStream
  | x :: t =>
    if c.column == 0 && x == '%' then s.directiveLine
    else if c.column == 0 && startsMark '-' c.ahead then s.documentMark .documentStart
    else if c.column == 0 && startsMark '.' c.ahead then s.documentMark .documentEnd
    else if x == '[' then s.flowStart .flowSequenceStart
    else if x == '\x7b' then s.flowStart .flowMappingStart
    else if x == ']' then s.flowEnd .flowSequenceEnd
    else if x == '\x7d' then s.flowEnd .flowMappingEnd
    else if x == ',' then s.flowEntry
    else if x == '-' && startsBlank t then s.blockEntry
    else if x == '?' && (s.inFlow || startsBlank t) then s.explicitKey
    else if x == ':' && (s.inFlow || startsBlank t) then s.valueMark
    else if x == '*' then s.anchor .alias
    else if x == '&' then s.anchor .anchor
    else if x == '!' then s.tag
    else if x == '|' && !s.inFlow then s.block true
    else if x == '>' && !s.inFlow then s.block false
    else if x == '\'' then s.quoted '\''
    else if x == '"' then s.quoted '"'
    else if startsPlain s.inFlow x t then s.plainScalar
    else none

/-- One token scanned, with the blocks that it closes or opens; none at a fault. -/
def step (s : Scanner) : Option Scanner := do
  let s ← toNextToken s.cursor.bound s
  let s := s.unrollTo s.cursor.column
  let c ← s.cursor.need 4
  { s with cursor := c }.token

/-- Whether the first token can be handed out. A required key without its colon is a fault. -/
def isReady (s : Scanner) : Option Bool :=
  if s.queue.length < 3 then some false
  else match s.waiting.lookup s.handed with
    | none => some true
    | some level => match s.keys[s.flow - level]? with
      | none => some true
      | some k =>
        if !k.possible then some true
        else if s.isFresh k then some false
        else if k.required then none
        else some true

def hand (s : Scanner) (rest : List Token) : Scanner :=
  { s with queue := rest, handed := s.handed + 1,
           waiting := s.waiting.filter (s.handed < ·.1) }

def run : Nat → List Token → Scanner → List Token
  | 0, ts, _ => ts
  | fuel + 1, ts, s => match s.isReady with
    | none => ts
    | some false => match s.step with
      | none => ts
      | some s => run fuel ts s
    | some true => match s.queue with
      | [] => ts
      | t :: q =>
        if t == .streamEnd then t :: ts
        else run fuel (t :: ts) (s.hand q)

end Scanner

def tokens (t : Bytes) : List Token :=
  (Scanner.run (6 * t.length + 12) [] (Scanner.start t)).reverse

end Yaml

end CallAssist
