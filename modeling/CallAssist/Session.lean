import CallAssist.Call.Resolution
import CallAssist.Catalog.Load
import CallAssist.Log.Record

/-!
A session over a catalogue: completions, signature help and descriptions, until it is shut down.
-/

namespace CallAssist

/-- A suggestion to complete a name. -/
structure Completion where
  label : Bytes
  insertText : Bytes
  detail : Bytes
  documentation : Bytes
  deriving DecidableEq, Repr

/-- A function as shown while its arguments are typed. -/
structure SignatureInfo where
  label : Bytes
  documentation : Bytes
  parameters : List Bytes
  deriving DecidableEq, Repr

/-- All signatures, with the active one and its active parameter. -/
structure SignatureHelp where
  signatures : List SignatureInfo
  activeSignature : Nat
  activeParameter : Nat
  deriving DecidableEq, Repr

def Completion.ofFunction (f : Function) : Completion :=
  ⟨f.name, f.name ++ utf8 "(", f.signature, f.description⟩

def SignatureInfo.ofFunction (f : Function) : SignatureInfo :=
  ⟨f.signature, f.description, f.params⟩

/-- A catalogue in use. -/
structure Session where
  catalog : Catalog
  closed : Bool
  deriving DecidableEq, Repr

/-- A session that was shut down gives no more answers. -/
inductive SessionClosed where
  | closed
  deriving DecidableEq, Repr

def SessionClosed.message : SessionClosed → Bytes
  | .closed => utf8 "assist session is shut down"

namespace Session

def ofCatalog (c : Catalog) : Session := ⟨c, false⟩

def start (fs : Files) (path : Bytes) : Except LoadError (Session × List Record) := do
  let c ← Catalog.load fs path
  return (ofCatalog c, [.make .info "Loaded function catalog"
    [("path", path), ("functions", Bytes.ofNat c.size)]])

def startMessage (e : LoadError) : Bytes := utf8 "failed to initialize session: " ++ e.message

/-- The session shut down; doing so twice changes nothing. -/
def shutdown (s : Session) : Session × List Record :=
  if s.closed then (s, []) else ({ s with closed := true }, [.make .info "Session shut down" []])

def completions (s : Session) : Except SessionClosed (List Completion) :=
  if s.closed then .error .closed else .ok (s.catalog.functions.map .ofFunction)

def signatureHelp (s : Session) (line : Bytes) (offset : Int) :
    Except SessionClosed (Option SignatureHelp × List Record) :=
  if s.closed then .error .closed
  else match s.catalog.resolve line offset with
    | none => .ok (none, [.make .debug "No active call" [("offset", Bytes.ofInt offset)]])
    | some r =>
      .ok (some ⟨s.catalog.functions.map .ofFunction, r.index, r.activeParameter⟩,
        [.make .debug "Resolved call" [("function", r.function.name),
          ("active_parameter", Bytes.ofNat r.activeParameter)]])

def describe (s : Session) (word : Bytes) : Option Function :=
  if s.closed then none else s.catalog.lookup? word

end Session

end CallAssist
