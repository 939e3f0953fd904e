import CallAssist.Text.LetterCase
import CallAssist.Text.Width

/-!
Tables of texts under a header, drawn as a box or written in markdown.
-/

namespace CallAssist

namespace Render

/-- Rows of cells under a header; a row may have fewer or more cells than the header. -/
structure Table where
  header : List Bytes
  rows : List (List Bytes)
  deriving DecidableEq, Repr

namespace Table

def cell (t : Bytes) : Bytes := (Bytes.replace 0x09 (utf8 "    ") t).filter (· != 0x0D)

def shown (t : Table) : Table := ⟨t.header.map cell, t.rows.map (·.map cell)⟩

def columnCount (t : Table) : Nat := ((t.header :: t.rows).map List.length).foldl max 0

def hasCells (t : Table) (column : Nat) : Bool := t.rows.any fun r => column < r.length

def lines (c : Bytes) : List Bytes := c.split 0x0A

def width (t : Table) (column : Nat) : Nat :=
  ((t.header :: t.rows).map fun r => Bytes.longestLine (r.getD column [])).foldl max 0

/-- How a column is set: its width, and whether its lines stand at its right. -/
structure Column where
  width : Nat
  toRight : Bool
  deriving DecidableEq, Repr

def columns (t : Table) : List Column :=
  (List.range t.columnCount).map fun i => ⟨t.width i, !t.hasCells i⟩

def trimEnd (line : Bytes) : Bytes := (line.reverse.dropWhile (· == 0x20)).reverse

def Column.set (c : Column) (line : Bytes) : Bytes :=
  if c.toRight then Bytes.padStart c.width (line.dropWhile (· == 0x20))
  else Bytes.padEnd c.width (trimEnd line)

def filled (cs : List Column) (row : List Bytes) : List Bytes :=
  (List.range cs.length).map fun i => row.getD i []

def upperFrom (escaped : Bool) : List Char → List Char
  | [] => []
  | c :: cs =>
    let escaped := escaped || c == '\x1b'
    if escaped then c :: upperFrom (c != 'm') cs else Letter.upper c :: upperFrom false cs

def upperCell (c : Bytes) : Bytes :=
  Bytes.join [0x0A] ((lines c).map fun l => Bytes.ofChars (upperFrom false (Bytes.chars l)))

def rule (cs : List Column) (left middle right : String) : Bytes :=
  utf8 left ++
    Bytes.join (utf8 middle) (cs.map fun c => (List.replicate (c.width + 2) (utf8 "─")).flatten) ++
    utf8 right ++ [0x0A]

def boxLine (cs : List Column) (cells : List Bytes) : Bytes :=
  utf8 "│ " ++ Bytes.join (utf8 " │ ") (List.zipWith Column.set cs cells) ++ utf8 " │\n"

/-- A row, with as many lines as its tallest cell; a row without cells has none. -/
def boxRow (cs : List Column) (row : List Bytes) : Bytes :=
  if row.isEmpty then []
  else
    let cells := (filled cs row).map lines
    let height := (cells.map List.length).foldl max 0
    (List.range height).flatMap fun i => boxLine cs (cells.map fun ls => ls.getD i [])

def box (table : Table) : Bytes :=
  let t := table.shown
  let cs := t.columns
  if cs.isEmpty then []
  else
    rule cs "┌" "┬" "┐" ++ boxRow cs (t.header.map upperCell) ++ rule cs "├" "┼" "┤" ++
      t.rows.flatMap (boxRow cs) ++ rule cs "└" "┴" "┘"

/-- A cell in markdown: no bar and no line feed may end it. -/
def markdownCell (c : Bytes) : Bytes :=
  c.flatMap fun b =>
    if b == 0x7C then utf8 "\\|" else if b == 0x0A then utf8 "<br/>" else [b]

def markdownRow (cs : List Column) (row : List Bytes) : Bytes :=
  utf8 "|" ++ (filled cs row).flatMap (fun c => utf8 " " ++ markdownCell c ++ utf8 " |") ++ [0x0A]

def markdownRule (cs : List Column) : Bytes :=
  utf8 "|" ++ cs.flatMap (fun c => if c.toRight then utf8 " ---:|" else utf8 " --- |") ++ [0x0A]

def markdown (table : Table) : Bytes :=
  let t := table.shown
  let cs := t.columns
  if cs.isEmpty then []
  else markdownRow cs t.header ++ markdownRule cs ++ t.rows.flatMap (markdownRow cs)

end Table

end Render

end CallAssist
