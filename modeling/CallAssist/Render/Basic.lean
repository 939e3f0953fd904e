import CallAssist.Json.Printer
import CallAssist.Render.Style
import CallAssist.Render.Table
import CallAssist.Text.Title

/-!
Results printed for a terminal, for a page of markdown, or as JSON.
-/

namespace CallAssist

/-- What a command wrote to its two streams. -/
structure Printed where
  out : Bytes := []
  err : Bytes := []
  deriving DecidableEq, Repr

namespace Printed

def empty : Printed := { }

def append (a b : Printed) : Printed := ⟨a.out ++ b.out, a.err ++ b.err⟩

instance : Append Printed := ⟨append⟩

def concat (ps : List Printed) : Printed := ps.foldr append empty

def text (t : Bytes) : Printed := ⟨t, []⟩

def line (t : Bytes) : Printed := ⟨t ++ [0x0A], []⟩

def errorLine (t : Bytes) : Printed := ⟨[], t ++ [0x0A]⟩

end Printed

namespace Render

/-- The ways to print. A name that is none of these prints as text does. -/
inductive Mode where
  | auto
  | text
  | markdown
  | json
  | other (name : Bytes)
  deriving DecidableEq, Repr

namespace Mode

/-- The mode of a name; no name means the automatic one. -/
def ofName (name : Bytes) : Mode :=
  if name.isEmpty || name == utf8 "auto" then .auto
  else if name == utf8 "text" then .text
  else if name == utf8 "markdown" then .markdown
  else if name == utf8 "json" then .json
  else .other name

def name : Mode → Bytes
  | .auto => utf8 "auto"
  | .text => utf8 "text"
  | .markdown => utf8 "markdown"
  | .json => utf8 "json"
  | .other n => n

end Mode

end Render

/-- How results are printed. -/
structure Renderer where
  mode : Render.Mode
  terminal : Bool
  finish : Render.Finish
  deriving DecidableEq, Repr

namespace Renderer

open Render

/-- A renderer for a stream. Styles are carried out on a terminal that is not asked for no
colours, with escape sequences if it has colours. -/
def make (mode : Mode) (terminal colors : Bool) (env : List (Bytes × Bytes)) : Renderer :=
  ⟨mode, terminal,
    if terminal && !colorless env then (if colors then .color else .layout) else .plain⟩

def piped (mode : Mode) : Renderer := ⟨mode, false, .plain⟩

/-- The mode in effect: automatic means text on a terminal and markdown elsewhere. -/
def effective (r : Renderer) : Mode :=
  match r.mode with
  | .auto => if r.terminal then .text else .markdown
  | m => m

def isMarkdown (r : Renderer) : Bool := r.effective == .markdown

def isJson (r : Renderer) : Bool := r.effective == .json

def styled (r : Renderer) (role : Role) (t : Bytes) : Bytes := Render.styled r.finish role t

/-- A section header; in markdown it has a mark for each level, and at least one. -/
def header (r : Renderer) (level : Int) (t : Bytes) : Printed :=
  if r.isMarkdown then
    .text (List.replicate (max 1 level.toNat) 0x23 ++ utf8 " " ++ t ++ utf8 "\n\n")
  else .text (r.styled .header t ++ utf8 "\n\n")

def success (r : Renderer) (t : Bytes) : Printed := .line (r.styled .success (utf8 "✓ " ++ t))

def warning (r : Renderer) (t : Bytes) : Printed := .line (r.styled .warning (utf8 "! " ++ t))

def failure (r : Renderer) (t : Bytes) : Printed :=
  .errorLine (r.styled .error (utf8 "✗ " ++ t))

def note (r : Renderer) (t : Bytes) : Printed := .line (r.styled .muted t)

def json (_ : Renderer) (v : Json) : Printed := .line (v.indented 0)

def table (r : Renderer) (t : Table) : Printed :=
  .text (if r.isMarkdown then t.markdown else t.box)

end Renderer

def keyValue (key value : Bytes) : Bytes := key.title ++ utf8 ": " ++ value

end CallAssist
