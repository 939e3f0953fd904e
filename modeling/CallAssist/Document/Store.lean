import CallAssist.Document.Basic

/-!
The open documents of an editor.
-/

namespace CallAssist

/-- Open documents by address. -/
structure Documents where
  entries : List (Bytes × Document)
  deriving DecidableEq, Repr

namespace Documents

def empty : Documents := ⟨[]⟩

def get? (ds : Documents) (uri : Bytes) : Option Document := ds.entries.lookup uri

def close (ds : Documents) (uri : Bytes) : Documents := ⟨ds.entries.filter (·.1 != uri)⟩

def «open» (ds : Documents) (uri content : Bytes) (version : Int) : Documents :=
  ⟨(uri, .make uri content version) :: (ds.close uri).entries⟩

/-- An open document replaced; one that is not open stays so. -/
def update (ds : Documents) (uri content : Bytes) (version : Int) : Documents :=
  if (ds.get? uri).isSome then ds.open uri content version else ds

end Documents

end CallAssist
