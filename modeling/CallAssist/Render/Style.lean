import CallAssist.Text.Terminal

/-!
Styled texts. A style is a colour and weight on a terminal that has them; everywhere it writes a
tab as four blanks.
-/

namespace CallAssist

namespace Render

/-- What a styled text is for. -/
inductive Role where
  | header
  | bold
  | muted
  | success
  | error
  | warning
  deriving DecidableEq, Repr

def Role.attributes : Role → Bytes
  | .header => utf8 "1;94"
  | .bold => utf8 "1"
  | .muted => utf8 "90"
  | .success => utf8 "92"
  | .error => utf8 "91"
  | .warning => utf8 "93"

/-- How far styles are carried out: not at all, in their layout only, or with escape sequences. -/
inductive Finish where
  | plain
  | layout
  | color
  deriving DecidableEq, Repr

def expandTabs (t : Bytes) : Bytes := Bytes.replace 0x09 (utf8 "    ") t

def unixLines : Bytes → Bytes
  | 0x0D :: 0x0A :: t => 0x0A :: unixLines t
  | b :: t => b :: unixLines t
  | [] => []

def Role.wrap (r : Role) (line : Bytes) : Bytes :=
  utf8 "\x1b[" ++ r.attributes ++ utf8 "m" ++ line ++ utf8 "\x1b[0m"

def squared (lines : List Bytes) : List Bytes :=
  let width := (lines.map Bytes.displayWidth).foldl max 0
  lines.map fun l => l ++ List.replicate (width - l.displayWidth) 0x20

def styled (f : Finish) (r : Role) (t : Bytes) : Bytes :=
  let t := expandTabs t
  match f with
  | .plain => t
  | .layout => Bytes.join [0x0A] (squared ((unixLines t).split 0x0A))
  | .color => Bytes.join [0x0A] (squared (((unixLines t).split 0x0A).map r.wrap))

def colorless (env : List (Bytes × Bytes)) : Bool :=
  let value (name : String) : Bytes := (env.lookup (utf8 name)).getD []
  let forced := value "CLICOLOR_FORCE"
  !(value "NO_COLOR").isEmpty ||
    (value "CLICOLOR" == utf8 "0" && (forced.isEmpty || forced == utf8 "0"))

end Render

end CallAssist
