import CallAssist.Text.Integer
import CallAssist.Text.Quoted

/-!
Levels of log records. Four levels have names; the others are written as a named one with an
offset.
-/

namespace CallAssist

/-- How grave a log record is. -/
structure Level where
  rank : Int
  deriving DecidableEq, Repr

/-- Why a text names no level. -/
inductive LevelFault where
  | offset (text : Bytes) (fault : Integer.Fault)
  | unknownName
  deriving DecidableEq, Repr

/-- A text that names no level. -/
structure LevelError where
  text : Bytes
  fault : LevelFault
  deriving DecidableEq, Repr

def Integer.Fault.describe (f : Integer.Fault) (reader text : Bytes) : Bytes :=
  utf8 "strconv." ++ reader ++ utf8 ": parsing " ++ Bytes.quoted text ++ utf8 ": " ++ f.message

def LevelFault.message : LevelFault → Bytes
  | .offset text f => f.describe (utf8 "Atoi") text
  | .unknownName => utf8 "unknown name"

def LevelError.message (e : LevelError) : Bytes :=
  utf8 "invalid log_level " ++ Bytes.quoted e.text ++ utf8 ": slog: level string " ++
    Bytes.quoted e.text ++ utf8 ": " ++ e.fault.message

namespace Level

def debug : Level := ⟨-4⟩

def info : Level := ⟨0⟩

def warn : Level := ⟨4⟩

def error : Level := ⟨8⟩

instance : LE Level := ⟨fun a b => a.rank ≤ b.rank⟩

instance (a b : Level) : Decidable (a ≤ b) := inferInstanceAs (Decidable (a.rank ≤ b.rank))

/-- The named level a text spells in any letter case; the dotless i counts as an i. -/
def named? (t : Bytes) : Option Level :=
  let upper := (Bytes.chars t).flatMap fun c =>
    if c == 'ı' then [0x49] else (String.utf8EncodeChar c).map Bytes.upperByte
  if upper == utf8 "DEBUG" then some debug
  else if upper == utf8 "INFO" then some info
  else if upper == utf8 "WARN" then some warn
  else if upper == utf8 "ERROR" then some error
  else none

/-- A level moved by an offset, in 64-bit arithmetic. -/
def shift (l : Level) (offset : Int) : Level := ⟨Int.bmod (l.rank + offset) 0x10000000000000000⟩

/-- The level a text spells: a name, and perhaps a signed offset from its sign on. A bad offset is
found before a bad name. The empty text is the level of information. -/
def parse (t : Bytes) : Except LevelError Level :=
  if t.isEmpty then .ok info
  else
    let name := t.takeWhile fun b => b != 0x2B && b != 0x2D
    let offset := t.drop name.length
    match if offset.isEmpty then .ok 0 else Integer.decimal offset with
    | .error f => .error ⟨t, .offset offset f⟩
    | .ok n => match named? name with
      | none => .error ⟨t, .unknownName⟩
      | some l => .ok (l.shift n)

/-- A level as the nearest named one below it and an offset; below the lowest, the offset is
negative. -/
def label (l : Level) : Bytes :=
  let base (name : String) (from_ : Level) : Bytes :=
    let n := l.rank - from_.rank
    if n == 0 then utf8 name
    else if 0 < n then utf8 name ++ utf8 "+" ++ Bytes.ofInt n
    else utf8 name ++ Bytes.ofInt n
  if l.rank < info.rank then base "DEBUG" debug
  else if l.rank < warn.rank then base "INFO" info
  else if l.rank < error.rank then base "WARN" warn
  else base "ERROR" error

end Level

end CallAssist
