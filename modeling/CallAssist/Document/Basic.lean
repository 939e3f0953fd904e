import CallAssist.Text.Rune

/-!
Text documents by line and column. Lines end at a line feed, a carriage return before it belonging
to the end; columns count UTF-16 units.
-/

namespace CallAssist

/-- A place in a document. -/
structure Position where
  line : UInt32
  character : UInt32
  deriving DecidableEq, Repr

/-- A stretch of a document. -/
structure Range where
  start : Position
  stop : Position
  deriving DecidableEq, Repr

/-- The offsets at which lines start, given the offset of the text itself. -/
def lineStartsFrom : Nat → Bytes → List Nat
  | _, [] => []
  | i, b :: t => if b == 0x0A then (i + 1) :: lineStartsFrom (i + 1) t else lineStartsFrom (i + 1) t

def lineStarts (t : Bytes) : List Nat := 0 :: lineStartsFrom 0 t

def dropReturn (t : Bytes) : Bytes := if Bytes.endsWith [0x0D] t then t.dropLast else t

/-- An open document, with the offsets of its lines. -/
structure Document where
  uri : Bytes
  content : Bytes
  version : Int
  lines : List Nat
  deriving DecidableEq, Repr

namespace Document

def make (uri content : Bytes) (version : Int) : Document :=
  ⟨uri, content, version, lineStarts content⟩

/-- A line without its end; empty where there is none. -/
def line (d : Document) (row : Int) : Bytes :=
  if row < 0 then []
  else match d.lines[row.toNat]? with
    | none => []
    | some start =>
      let stop := match d.lines[row.toNat + 1]? with
        | some next => next - 1
        | none => d.content.length
      dropReturn ((d.content.take stop).drop start)

def lineAt (d : Document) (p : Position) : Bytes × Nat :=
  let text := d.line p.line.toNat
  (text, Bytes.offsetOfColumn text p.character.toNat)

def wordBounds (text : Bytes) (offset : Nat) : Nat × Nat :=
  (offset - (Bytes.trailingWord (text.take offset)).length,
    offset + ((text.drop offset).takeWhile Bytes.isWord).length)

/-- The word at an offset of a line with its range, or the empty word at the position itself. -/
def wordIn (text : Bytes) (offset : Nat) (p : Position) : Bytes × Range :=
  let (start, stop) := wordBounds text offset
  if start == stop then ([], ⟨p, p⟩)
  else
    let column (i : Nat) : UInt32 := (Bytes.columnOfOffset text i).toUInt32
    ((text.take stop).drop start, ⟨⟨p.line, column start⟩, ⟨p.line, column stop⟩⟩)

def wordAt (d : Document) (p : Position) : Bytes × Range :=
  let (text, offset) := d.lineAt p
  wordIn text offset p

end Document

end CallAssist
