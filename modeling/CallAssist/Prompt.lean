import CallAssist.Call.Resolution
import CallAssist.Json.Text
import CallAssist.Render.Basic
import CallAssist.Text.Blank
import CallAssist.Text.Quoted

/-!
The call around a cursor, printed, and a prompt that asks for one line after the other. In a line
typed at the prompt a bar stands where the cursor is.
-/

namespace CallAssist

namespace Resolution

def json : Option Resolution → Json
  | none => .object [Json.field "found" (.bool false), Json.field "index" (.ofInt (-1)),
      Json.field "active_parameter" (.ofNat 0)]
  | some r => .object ([Json.field "found" (.bool true),
      Json.field "function" (.ofText r.function.name),
      Json.field "signature" (.ofText r.function.signature)] ++
      (if r.function.params.isEmpty then []
      else [Json.field "params" (.array (r.function.params.map .ofText))]) ++
      [Json.field "index" (.ofNat r.index),
      Json.field "active_parameter" (.ofNat r.activeParameter)])

def parameter (r : Resolution) : Bytes :=
  (r.function.params[r.activeParameter]?).getD (utf8 "beyond declared parameters")

def printed (r : Renderer) (found : Option Resolution) : Printed :=
  if r.isJson then r.json (json found)
  else match found with
    | none => r.note (utf8 "No active call")
    | some x =>
      .line (keyValue (utf8 "signature") (r.styled .bold x.function.signature)) ++
      .line (keyValue (utf8 "active parameter")
        (Bytes.ofNat x.activeParameter ++ utf8 " (" ++ x.parameter ++ utf8 ")"))

end Resolution

namespace Prompt

def cursor : UInt8 := 0x7C

/-- The line without its first mark, and where that stood; without a mark the cursor is at the
end. -/
def splitCursor (t : Bytes) : Bytes × Nat :=
  match Bytes.cut cursor t with
  | none => (t, t.length)
  | some (before, after) => (before ++ after, before.length)

def greeting (c : Catalog) : Printed :=
  .line (utf8 "Resolving against " ++ Bytes.ofNat c.size ++
    utf8 " functions. Mark the cursor with " ++ Bytes.quoted [cursor] ++ utf8 "; .quit to exit.")

/-- What a line asks for. -/
inductive Request where
  | nothing
  | quit
  | help
  | resolve (line : Bytes)
  deriving DecidableEq, Repr

def Request.ofLine (t : Bytes) : Request :=
  let word := t.trim
  if word.isEmpty then .nothing
  else if word == utf8 ".quit" || word == utf8 ".exit" then .quit
  else if word == utf8 ".help" then .help
  else .resolve t

def respond (r : Renderer) (c : Catalog) : Request → Printed
  | .nothing | .quit => .empty
  | .help =>
    .line (utf8 "Type a line of NVGT code with \"|\" at the cursor, e.g. x = clamp(1, |2)")
  | .resolve t =>
    let (line, column) := splitCursor t
    Resolution.printed r (c.resolve line column)

/-- The lines of an input, each ended by a carriage return or a line feed. What follows the last end
is a line if it is not empty. Stray bytes are read as replacement characters; the other control
bytes are taken as text, although a line editor reads them as editing keys. -/
def lines (input : Bytes) : List Bytes :=
  (Bytes.replace 0x0D [0x0A] input).split 0x0A |>.map fun t => Bytes.ofChars t.chars

def answers (r : Renderer) (c : Catalog) : List Bytes → Printed
  | [] => .empty
  | t :: ts => match Request.ofLine t with
    | .quit => .empty
    | request => respond r c request ++ answers r c ts

end Prompt

end CallAssist
