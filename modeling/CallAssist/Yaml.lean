import CallAssist.Yaml.Composer
import CallAssist.Yaml.Decoding
import CallAssist.Yaml.Scanner

/-!
The first document of a YAML text.
-/

namespace CallAssist

namespace Yaml

def parse (t : Bytes) : Except Failure Node := Node.ofTokens (tokens t)

def read {α : Type} (t : Bytes) (f : Node → Decoding α) : Except Failure α :=
  match parse t with
  | .error e => .error e
  | .ok n => (f n).result

end Yaml

end CallAssist
