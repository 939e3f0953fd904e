import CallAssist.Text.GraphemeClass
import CallAssist.Text.Rune
import CallAssist.Text.Width

/-!
Graphemes: the units that a reader takes for one character, such as a letter with its accents, a
Hangul syllable, or pictographs put together by joiners; and the columns they take.
-/

namespace CallAssist

/-- What the next boundary depends on, after some characters of a grapheme. The letters that make a
Hangul syllable lead to `leading`, `vowel` and `trailing`; a pictograph with a joiner behind it
waits for another one, and two halves of a flag make a whole. -/
inductive GraphemeState where
  | plain
  | carriageReturn
  | control
  | leading
  | vowel
  | trailing
  | prepend
  | picture
  | joined
  | halfFlag
  | wholeFlag
  deriving DecidableEq, Repr

namespace GraphemeState

def next : GraphemeState → GraphemeClass → GraphemeState
  | .picture, .extend => .picture
  | .picture, .joiner => .joined
  | .halfFlag, .flag => .wholeFlag
  | _, .carriageReturn => .carriageReturn
  | _, .lineFeed => .control
  | _, .control => .control
  | _, .leading => .leading
  | _, .open_ => .vowel
  | _, .vowel => .vowel
  | _, .closed => .trailing
  | _, .trailing => .trailing
  | _, .prepend => .prepend
  | _, .picture => .picture
  | _, .flag => .halfFlag
  | _, _ => .plain

def breaks : GraphemeState → GraphemeClass → Bool
  | .carriageReturn, .lineFeed => false
  | .carriageReturn, _ => true
  | .control, _ => true
  | _, .carriageReturn => true
  | _, .lineFeed => true
  | _, .control => true
  | .leading, .leading => false
  | .leading, .vowel => false
  | .leading, .open_ => false
  | .leading, .closed => false
  | .vowel, .vowel => false
  | .vowel, .trailing => false
  | .trailing, .trailing => false
  | _, .extend => false
  | _, .joiner => false
  | _, .spacing => false
  | .prepend, _ => false
  | .joined, .picture => false
  | .halfFlag, .flag => false
  | _, _ => true

end GraphemeState

def GraphemeClass.width (k : GraphemeClass) (c : Char) : Nat :=
  match k with
  | .control | .carriageReturn | .lineFeed | .extend | .joiner => 0
  | .flag => 2
  | .picture => if colorRanges.has c.toNat then 2 else 1
  | _ =>
    if c == '\u2e3a' then 3
    else if c == '\u2e3b' then 4
    else if wideRanges.has c.toNat then 2
    else 1

/-- A grapheme being read: the class of its first character, its state and its columns so far. -/
structure Grapheme where
  first : GraphemeClass
  state : GraphemeState
  width : Nat
  deriving DecidableEq, Repr

namespace Grapheme

def start (c : Char) : Grapheme :=
  let k := GraphemeClass.of c
  ⟨k, GraphemeState.plain.next k, k.width c⟩

/-- The columns of a grapheme with one more character. A pictograph has the width that a selector
behind it asks for; a flag and a Hangul syllable are as wide as their first letter. -/
def widen (g : Grapheme) (k : GraphemeClass) (c : Char) : Nat :=
  match g.first with
  | .picture => if c == '\ufe0e' then 1 else if c == '\ufe0f' then 2 else g.width
  | .flag => g.width
  | .leading => g.width
  | _ => g.width + k.width c

def extend? (g : Grapheme) (c : Char) : Option Grapheme :=
  let k := GraphemeClass.of c
  if g.state.breaks k then none else some ⟨g.first, g.state.next k, g.widen k c⟩

end Grapheme

end CallAssist
