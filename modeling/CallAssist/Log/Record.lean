import CallAssist.Log.Level
import CallAssist.Text.Blank

/-!
Log records and their text form, one line a record.
-/

namespace CallAssist

/-- A log record: its level, a message, and named values. -/
structure Record where
  level : Level
  message : Bytes
  attrs : List (Bytes × Bytes)
  deriving DecidableEq, Repr

namespace Record

def make (level : Level) (message : String) (attrs : List (String × Bytes)) : Record :=
  ⟨level, utf8 message, attrs.map fun (k, v) => (utf8 k, v)⟩

def forcesQuotes : Rune → Bool
  | .stray _ => true
  | .point c =>
    let n := c.toNat
    if n < 0x80 then n ≤ 0x20 || n == 0x3D || n == 0x22
    else n == 0xFFFD || isBlankChar c || !isPrintable c

def word (t : Bytes) : Bytes :=
  if t.isEmpty || (Bytes.runes t).any forcesQuotes then Bytes.quoted t else t

def line (r : Record) : Bytes :=
  utf8 "level=" ++ r.level.label ++ utf8 " msg=" ++ word r.message ++
    (r.attrs.flatMap fun (k, v) => utf8 " " ++ word k ++ utf8 "=" ++ word v) ++ utf8 "\n"

end Record

end CallAssist
