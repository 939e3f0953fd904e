import CallAssist.Yaml.Cursor

/-!
The text of a scalar: plain, quoted or in a block. Line breaks inside plain and quoted scalars are
folded: one break is a blank, more are kept but the first.
-/

namespace CallAssist

namespace Yaml

/-- The white space between two parts of a scalar: blanks on one line, or line breaks once one was
met. -/
structure Gap where
  broken : Bool
  blanks : List Char
  first : List Char
  more : List Char

namespace Gap

def none : Gap := ⟨false, [], [], []⟩

def folded (g : Gap) : List Char :=
  if g.broken then
    if g.first == ['\n'] then if g.more.isEmpty then [' '] else g.more
    else g.first ++ g.more
  else g.blanks

def read (margin : Nat) : Nat → Gap → Cursor → Option (Gap × Cursor)
  | 0, g, c => some (g, c)
  | fuel + 1, g, c =>
    if c.isAtBlank then
      if g.broken && c.column < margin && c.head? == some '\t' then Option.none
      else
        let g := if g.broken then g else { g with blanks := g.blanks ++ c.ahead.take 1 }
        match (c.advance 1).need 1 with
        | Option.none => Option.none
        | some c => read margin fuel g c
    else if c.isAtBreak then
      match c.readBreak with
      | Option.none => Option.none
      | some (b, c) =>
        let g := if g.broken then { g with more := g.more ++ b }
          else { g with broken := true, blanks := [], first := b }
        match c.need 1 with
        | Option.none => Option.none
        | some c => read margin fuel g c
    else some (g, c)

end Gap

def endsPlain (inFlow : Bool) (c : Char) (t : List Char) : Bool :=
  (c == ':' && startsBlank t) || (inFlow && ",?[]\x7b\x7d".toList.contains c)

def continuesPlain (inFlow : Bool) : List Char → Bool
  | [] => false
  | c :: t => !(isBlank c || isBreak c || endsPlain inFlow c t)

/-- A scalar read so far, whether a line break follows it, and the place after it. -/
structure Read where
  text : List Char
  broken : Bool
  next : Cursor

def addChars (text more : List Char) : List Char := more.reverse ++ text

/-- A plain scalar, of which `text` holds what was read, last character first. It goes on over lines
indented to `margin` at least, or any lines in a flow collection, and ends at a comment or a mark
between documents. -/
def plainFrom (inFlow : Bool) (margin : Nat) : Nat → List Char → Gap → Cursor → Option Read
  | 0, _, _, _ => none
  | fuel + 1, text, g, c => do
    let c ← c.need 4
    if c.isAtMarkLine || c.head? == some '#' then return ⟨text.reverse, g.broken, c⟩
    else
      let (run, c) ← Cursor.passFrom 2 (continuesPlain inFlow) c.bound [] c
      let (text, g) :=
        if run.isEmpty then (text, g) else (addChars text (g.folded ++ run), Gap.none)
      if !(c.isAtBlank || c.isAtBreak) then return ⟨text.reverse, g.broken, c⟩
      else
        let (g, c) ← Gap.read margin c.bound g c
        if !inFlow && c.column < margin then return ⟨text.reverse, g.broken, c⟩
        else plainFrom inFlow margin fuel text g c

def plain (inFlow : Bool) (margin : Nat) (c : Cursor) : Option Read :=
  plainFrom inFlow margin c.bound [] Gap.none c

def hexValue? (width : Nat) (t : List Char) : Option Nat :=
  let ds := (t.take width).map fun c => Bytes.digitValue? c.toNat.toUInt8
  if ds.length == width && (t.take width).all (·.toNat < 0x80) then
    ds.foldl (fun n d => match n, d with
      | some n, some d => if d < 16 then some (n * 16 + d) else none
      | _, _ => none) (some 0)
  else none

def numericEscape? (width : Nat) (t : List Char) : Option Char :=
  match hexValue? width t with
  | none => none
  | some n =>
    if (0xD800 ≤ n && n < 0xE000) || 0x10FFFF < n then none else some (Char.ofNat n)

def shortEscapes : List (Char × Char) := [
  ('0', '\x00'), ('a', '\x07'), ('b', '\x08'), ('t', '\t'), ('\t', '\t'), ('n', '\n'),
  ('v', '\x0b'), ('f', '\x0c'), ('r', '\r'), ('e', '\x1b'), (' ', ' '), ('"', '"'), ('\'', '\''),
  ('\\', '\\'), ('N', '\u0085'), ('_', '\u00a0'), ('L', '\u2028'), ('P', '\u2029')]

def escapeWidth? (c : Char) : Option Nat := [('x', 2), ('u', 4), ('U', 8)].lookup c

/-- The escape in double quotes whose backslash is at a place: the character it stands for, and the
place after it. -/
def escape (c : Cursor) : Option (Char × Cursor) :=
  match (c.ahead.drop 1).head? with
  | none => none
  | some x => match shortEscapes.lookup x with
    | some y => some (y, c.advance 2)
    | none => do
      let width ← escapeWidth? x
      let c ← (c.advance 2).need width
      return (← numericEscape? width c.ahead, c.advance width)

/-- The characters of a quoted scalar up to the next blank, break or closing quote. `broken` tells
that the run ended in an escaped line break. -/
def quotedRun (quote : Char) : Nat → List Char → Cursor → Option Read
  | 0, _, _ => none
  | fuel + 1, text, c =>
    match c.ahead with
    | [] => some ⟨text.reverse, false, c⟩
    | x :: t =>
      if isBlank x || isBreak x then some ⟨text.reverse, false, c⟩
      else if x == quote then
        if quote == '\'' && t.head? == some '\'' then
          match (c.advance 2).need 2 with
          | none => none
          | some c => quotedRun quote fuel ('\'' :: text) c
        else some ⟨text.reverse, false, c⟩
      else if x == '\\' && quote == '"' then
        if (t.head?.map isBreak).getD false then do
          let c ← c.need 3
          return ⟨text.reverse, true, (c.advance 1).lineBreak.2⟩
        else match escape c with
          | none => none
          | some (e, c) => match c.need 2 with
            | none => none
            | some c => quotedRun quote fuel (e :: text) c
      else match (c.advance 1).need 2 with
        | none => none
        | some c => quotedRun quote fuel (x :: text) c

/-- The rest of a quoted scalar with its closing quote; `text` holds what was read, last character
first. -/
def quotedFrom (quote : Char) : Nat → List Char → Cursor → Option Read
  | 0, _, _ => none
  | fuel + 1, text, c => do
    let c ← c.need 4
    if c.isAtMarkLine || c.ahead.isEmpty then none
    else
      let r ← quotedRun quote c.bound [] c
      let next ← r.next.need 1
      if next.head? == some quote then
        return ⟨(addChars text r.text).reverse, false, next.advance 1⟩
      else
        let (g, c) ← Gap.read 0 next.bound { Gap.none with broken := r.broken } next
        quotedFrom quote fuel (addChars text (r.text ++ g.folded)) c

def quotedScalar (quote : Char) (c : Cursor) : Option Read :=
  quotedFrom quote c.bound [] (c.advance 1)

/-- What becomes of the line breaks at the end of a block scalar. -/
inductive Chomping where
  | strip
  | clip
  | keep
  deriving DecidableEq, Repr

/-- The indicators after the mark of a block scalar: chomping and a width of the indentation, zero
where none is given. -/
structure BlockHeader where
  chomping : Chomping
  width : Nat

def readChomping (c : Cursor) : Option (Option Chomping × Cursor) :=
  (c.need 1).map fun c => match c.head? with
    | some '+' => (some .keep, c.advance 1)
    | some '-' => (some .strip, c.advance 1)
    | _ => (none, c)

def readWidth (c : Cursor) : Option (Nat × Cursor) := do
  let c ← c.need 1
  match c.head? with
  | some x =>
    if x == '0' then none
    else if x.isDigit then return (x.toNat - '0'.toNat, c.advance 1)
    else return (0, c)
  | none => return (0, c)

def BlockHeader.read (c : Cursor) : Option (BlockHeader × Cursor) := do
  match ← readChomping c with
  | (some ch, c) =>
    let (w, c) ← readWidth c
    return (⟨ch, w⟩, c)
  | (none, c) =>
    let (w, c) ← readWidth c
    if w == 0 then return (⟨.clip, 0⟩, c)
    else
      let (ch, c) ← readChomping c
      return (⟨ch.getD .clip, w⟩, c)

/-- The line breaks and the indentation in front of the next line of a block scalar: the breaks,
the widest indentation met, and the place. An indentation of zero is not yet known. -/
def blockBreaks (indent : Nat) : Nat → List Char → Nat → Cursor → Option (List Char × Nat × Cursor)
  | 0, _, _, _ => none
  | fuel + 1, breaks, widest, c => do
    let c ← c.need 1
    let room := if indent == 0 then c.bound else indent - c.column
    let (_, c) ← Cursor.passFrom 1 (fun t => t.head? == some ' ') room [] c
    let widest := max widest c.column
    if (indent == 0 || c.column < indent) && c.head? == some '\t' then none
    else if c.isAtBreak then
      let (b, c) ← c.readBreak
      blockBreaks indent fuel (breaks ++ b) widest c
    else return (breaks, widest, c)

/-- A block scalar while its lines are read. -/
structure BlockText where
  /-- The lines read, last character first. -/
  text : List Char
  /-- The last line started with a blank. -/
  blank : Bool
  /-- The break after the last line. -/
  break_ : List Char
  /-- The breaks of the empty lines after it. -/
  more : List Char
  next : Cursor

/-- The lines of a block scalar, as long as they are indented. A folded scalar joins two lines that
start with no blank. -/
def blockLines (literal : Bool) (indent : Nat) : Nat → BlockText → Option BlockText
  | 0, _ => none
  | fuel + 1, b => do
    let c ← b.next.need 1
    if c.column != indent || c.ahead.isEmpty then return { b with next := c }
    else
      let blank := c.isAtBlank
      let joint :=
        if !literal && !b.blank && !blank && b.break_ == ['\n'] then
          if b.more.isEmpty then [' '] else []
        else b.break_
      let (line, c) ← c.pass (!isBreak ·)
      let text := addChars b.text (joint ++ b.more ++ line)
      let (break_, c) ← c.readBreak
      let (more, _, c) ← blockBreaks indent c.bound [] 0 c
      blockLines literal indent fuel ⟨text, blank, break_, more, c⟩

def blockScalar (literal : Bool) (parent : Int) (c : Cursor) : Option Read := do
  let (header, c) ← BlockHeader.read (c.advance 1)
  let c ← c.skip isBlank
  let c ← if c.head? == some '#' then c.skipLine else some c
  if !c.isAtLineEnd then none
  else
    let c ← if c.isAtBreak then c.skipBreak else some c
    let known := if header.width == 0 then 0 else parent.toNat + header.width
    let (more, widest, c) ← blockBreaks known c.bound [] 0 c
    let indent := if known == 0 then max widest (max (parent + 1).toNat 1) else known
    let b ← blockLines literal indent c.bound ⟨[], false, [], more, c⟩
    let tail := match header.chomping with
      | .strip => []
      | .clip => b.break_
      | .keep => b.break_ ++ b.more
    return ⟨(addChars b.text tail).reverse, true, b.next⟩

end Yaml

end CallAssist
