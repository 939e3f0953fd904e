/-!
The ways in which reading a YAML text can fail.
-/

namespace CallAssist

namespace Yaml

/-- Why a text gives no value: it is malformed, or there is no document in it, or reading it broke
down, which no caller can do anything about. -/
inductive Failure where
  | malformed
  | empty
  | breakdown
  deriving DecidableEq, Repr

end Yaml

end CallAssist
