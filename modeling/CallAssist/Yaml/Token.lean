import CallAssist.Text.Bytes

/-!
The tokens of a YAML text. Indentation appears as block starts and ends, and a key in front of a
colon is announced by a token of its own.
-/

namespace CallAssist

namespace Yaml

inductive Token where
  | versionDirective (major minor : Nat)
  | tagDirective (handle uri : Bytes)
  | documentStart
  | documentEnd
  | streamEnd
  | blockSequenceStart
  | blockMappingStart
  | blockEnd
  | flowSequenceStart
  | flowSequenceEnd
  | flowMappingStart
  | flowMappingEnd
  | blockEntry
  | flowEntry
  | key
  | value
  | alias (name : Bytes)
  | anchor (name : Bytes)
  | tag (handle suffix : Bytes)
  | scalar (plain : Bool) (text : Bytes)
  deriving DecidableEq, Repr

end Yaml

end CallAssist
