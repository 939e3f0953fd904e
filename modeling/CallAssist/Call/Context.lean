import CallAssist.Text.Blank

/-!
The call that a cursor stands in, read off the line before the cursor: the last open parenthesis
opens it, the identifier before that names it, and the commas after it tell the arguments apart.
-/

namespace CallAssist

/-- A call as far as it is typed: the name before the parenthesis, perhaps empty, and the text
after it. -/
structure CallContext where
  name : Bytes
  args : Bytes
  deriving DecidableEq, Repr

namespace CallContext

/-- The part of a line before the cursor. An offset outside the line is moved to its nearer end. -/
def beforeCursor (line : Bytes) (offset : Int) : Bytes := line.take offset.toNat

def ofText? (t : Bytes) : Option CallContext :=
  match Bytes.cutLast 0x28 t with
  | none => none
  | some (before, args) => some ⟨Bytes.trailingWord (Bytes.trim before), args⟩

def at? (line : Bytes) (offset : Int) : Option CallContext := ofText? (beforeCursor line offset)

def isQuote (b : UInt8) : Bool := b == 0x22 || b == 0x27

/-- Commas outside quotes, given whether the text starts inside them. Either kind of quote opens
and closes. -/
def commasFrom : Bool → Bytes → Nat
  | _, [] => 0
  | quoted, b :: t =>
    if isQuote b then commasFrom (!quoted) t
    else if b == 0x2C && !quoted then commasFrom quoted t + 1
    else commasFrom quoted t

def activeParameter (args : Bytes) : Nat := commasFrom false args

end CallContext

end CallAssist
