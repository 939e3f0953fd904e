import CallAssist.Json.Text
import CallAssist.Render.Basic
import CallAssist.Validation

/-!
Verdicts on catalogues, printed.
-/

namespace CallAssist

/-- A verdict as JSON; the error is left out when there is none. -/
def Verdict.json (v : Verdict) : Json :=
  .object ([Json.field "path" (.ofText v.path), Json.field "functions" (.ofNat v.functions)] ++
    if v.isOk then [] else [Json.field "error" (.ofText v.error)])

namespace Checkup

def failed (vs : List Verdict) : Nat := vs.countP (!·.isOk)

def line (r : Renderer) (v : Verdict) : Printed :=
  let name := Path.base v.path
  if !v.isOk then r.failure v.error
  else if v.functions == 0 then r.warning (name ++ utf8 ": catalog is empty")
  else r.success (name ++ utf8 ": " ++ Bytes.ofNat v.functions ++ utf8 " functions")

def printed (r : Renderer) (vs : List Verdict) : Printed :=
  if r.isJson then r.json (.array (vs.map Verdict.json)) else .concat (vs.map (line r))

end Checkup

end CallAssist
