import CallAssist.Yaml.ScalarText
import CallAssist.Yaml.Token

/-!
Tags, anchors and directives: the parts of a YAML text that are made of names and addresses.
-/

namespace CallAssist

namespace Yaml

def isUriChar (c : Char) : Bool := isNameChar c || ";/?:@&=+$,.!~*'()[]".toList.contains c

def percentByte? (c : Cursor) : Option (Nat × Cursor) := do
  let c ← c.need 3
  match c.ahead with
  | '%' :: t => return (← hexValue? 2 t, c.advance 3)
  | _ => none

def percentTail? : Nat → Cursor → Option (Bytes × Cursor)
  | 0, c => some ([], c)
  | n + 1, c => do
    let (b, c) ← percentByte? c
    if b / 64 == 2 then
      let (bs, c) ← percentTail? n c
      return (b.toUInt8 :: bs, c)
    else none

def uriFrom : Nat → Bytes → Cursor → Option (Bytes × Cursor)
  | 0, _, _ => none
  | fuel + 1, read, c => do
    let c ← c.need 1
    match c.head? with
    | none => return (read, c)
    | some x =>
      if x == '%' then
        let (b, c) ← percentByte? c
        let n ← sequenceLength? b
        let (bs, c) ← percentTail? (n - 1) c
        uriFrom fuel (read ++ b.toUInt8 :: bs) c
      else if isUriChar x then uriFrom fuel (read ++ String.utf8EncodeChar x) (c.advance 1)
      else return (read, c)

def uri (c : Cursor) : Option (Bytes × Cursor) := uriFrom c.bound [] c

/-- An exclamation mark, name characters, and perhaps a second mark: the text, whether it is closed
by a second mark, and the place after it. -/
def handle (c : Cursor) : Option (List Char × Bool × Cursor) := do
  let c ← c.need 1
  if c.head? != some '!' then none
  else
    let (name, c) ← (c.advance 1).pass isNameChar
    if c.head? == some '!' then return ('!' :: name ++ ['!'], true, c.advance 1)
    else return ('!' :: name, false, c)

/-- The tag at a place: `!<address>`, `!handle!suffix` or `!suffix`. A lone mark is a tag with an
empty handle. A blank must follow. -/
def tagToken (c : Cursor) : Option (Token × Cursor) := do
  let c ← c.need 2
  let (token, c) ←
    if (c.ahead.drop 1).head? == some '<' then do
      let (u, c) ← uri (c.advance 2)
      if u.isEmpty || c.head? != some '>' then none else some (Token.tag [] u, c.advance 1)
    else do
      let (h, closed, c) ← handle c
      let (u, c) ← uri c
      if closed then
        if u.isEmpty then none else some (Token.tag (Bytes.ofChars h) u, c)
      else
        let suffix := Bytes.ofChars (h.drop 1) ++ u
        if suffix.isEmpty then some (Token.tag [] (utf8 "!"), c)
        else some (Token.tag (utf8 "!") suffix, c)
  let c ← c.need 1
  if startsBlank c.ahead then return (token, c) else none

/-- The name after the mark of an anchor or alias. A blank or one of a few indicators must
follow. -/
def anchorName (c : Cursor) : Option (Bytes × Cursor) := do
  let (name, c) ← (c.advance 1).pass isNameChar
  if name.isEmpty then none
  else if startsBlank c.ahead || "?:,]\x7d%@`".toList.contains (c.head?.getD ' ') then
    return (Bytes.ofChars name, c)
  else none

def versionNumber (c : Cursor) : Option (Nat × Cursor) := do
  let (ds, c) ← c.pass Char.isDigit
  if ds.isEmpty || 2 < ds.length then none
  else return (ds.foldl (fun n d => n * 10 + (d.toNat - '0'.toNat)) 0, c)

def versionDirective (c : Cursor) : Option (Token × Cursor) := do
  let (major, c) ← versionNumber (← c.skip isBlank)
  if c.head? != some '.' then none
  else
    let (minor, c) ← versionNumber (c.advance 1)
    return (.versionDirective major minor, c)

def tagDirective (c : Cursor) : Option (Token × Cursor) := do
  let (h, closed, c) ← handle (← c.skip isBlank)
  let c ← c.need 1
  if !(closed || h == ['!']) || !c.isAtBlank then none
  else
    let (u, c) ← uri (← c.skip isBlank)
    if u.isEmpty || !startsBlank c.ahead then none
    else return (.tagDirective (Bytes.ofChars h) u, c)

def directive (c : Cursor) : Option (Token × Cursor) := do
  let (name, c) ← (c.advance 1).pass isNameChar
  if !startsBlank c.ahead then none
  else
    let (token, c) ←
      if name == "YAML".toList then versionDirective c
      else if name == "TAG".toList then tagDirective c
      else none
    let c ← c.skip isBlank
    let c ← if c.head? == some '#' then c.skipLine else some c
    if !c.isAtLineEnd then none
    else if c.isAtBreak then return (token, ← c.skipBreak)
    else return (token, c)

end Yaml

end CallAssist
