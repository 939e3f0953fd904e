import CallAssist.Document.Store
import CallAssist.Document.Uri
import CallAssist.Server.Message
import CallAssist.Server.Params
import CallAssist.Server.Result
import CallAssist.Settings.Project

/-!
The language server: its state and what it does with a message.
-/

namespace CallAssist

/-- The state of a server. `session` is there once a catalogue was loaded; `level` is what log
records are kept from, and `adjustable` tells whether a workspace may change it. A server that is
`broken` has come to its end in the middle of a message. -/
structure Server where
  documents : Documents
  session : Option Session
  catalogPath : Bytes
  version : Bytes
  projectRoot : Bytes
  initialized : Bool
  level : Level
  adjustable : Bool
  stopped : Bool
  broken : Bool

namespace Server

def fresh (catalogPath version : Bytes) (level : Level) (adjustable : Bool) : Server :=
  ⟨.empty, none, catalogPath, version, [], false, level, adjustable, false, false⟩

/-- What a server puts out: messages to the editor and log records, in order. -/
inductive Output where
  | message (m : Sent)
  | record (r : Record)

def log (s : Server) (rs : List Record) : List Output :=
  (rs.filter fun r => s.level.rank ≤ r.level.rank).map .record

abbrev Step := Server × List Output

def invalidParams : Int := -32602

def methodNotFound : Int := -32601

def decoderFault : Bytes := utf8 "[json]"

def handlingFault (m : Message) : Record :=
  .make .error "Error handling message" [("method", m.method), ("error", decoderFault)]

def rejectRequest (s : Server) (m : Message) : Step :=
  (s, .message (.error m.id invalidParams decoderFault) :: s.log [handlingFault m])

def rejectNotification (s : Server) (m : Message) : Step := (s, s.log [handlingFault m])

def answer (m : Message) (v : Json) : Output := .message (.result m.id v)

def projectSettings (fs : Files) (s : Server) :
    Except Settings.ProjectError (Option Settings.Project) :=
  if s.projectRoot.isEmpty then .ok none else Settings.Project.load fs s.projectRoot

def projectFault (s : Server) (e : Settings.ProjectError) : Record :=
  .make .warn "Failed to read project config" [("root", s.projectRoot), ("error", e.message)]

def applyLevel (s : Server) (p : Option Settings.Project) : Step :=
  match p.map Settings.Project.level with
  | none => (s, [])
  | some (.error e) =>
    (s, s.log [.make .warn "Ignoring project log level" [("error", e.message)]])
  | some (.ok none) => (s, [])
  | some (.ok (some l)) =>
    if s.adjustable then
      let s := { s with level := l }
      (s, s.log [.make .info "Using log level from project config" [("level", l.label)]])
    else
      (s, s.log [.make .warn "Project log level cannot be applied to this logger"
        [("level", l.label)]])

def fromRoot (s : Server) (path : Bytes) : Bytes :=
  if Path.isAbsolute path || s.projectRoot.isEmpty then path else Path.join [s.projectRoot, path]

/-- The catalogue of a workspace: what the editor asks for, else what the workspace sets, else what
the server was started with. -/
def chooseCatalog (s : Server) (wanted : Option Bytes) (p : Option Settings.Project) :
    Bytes × List Record :=
  let wanted := wanted.getD []
  let pinned := (p.map Settings.Project.catalogPath).getD []
  if !wanted.isEmpty then
    (s.fromRoot wanted, [.make .info "Using catalog from client options" [("path", wanted)]])
  else if !pinned.isEmpty then
    (s.fromRoot pinned, [.make .info "Using catalog from project config" [("path", pinned)]])
  else (s.catalogPath, [])

def offerNothing (s : Server) (m : Message) (path reason : Bytes) : Step :=
  (s, s.log [.make .error "Signature help and completion disabled"
      [("catalog", path), ("error", reason)]] ++
    [answer m (initializeResult s.version none)])

/-- A session over the catalogue at a path. Features are offered when it loads; when it does not, a
session that is already there stays. -/
def startSession (fs : Files) (s : Server) (m : Message) (path : Bytes) : Step :=
  if path.isEmpty then s.offerNothing m path (utf8 "no function catalog configured")
  else match Session.start fs path with
    | .ok (session, loaded) =>
      ({ s with session := some session },
        s.log loaded ++ [answer m (initializeResult s.version (some session.catalog))])
    | .error e =>
      if e.isBreakdown then ({ s with broken := true }, [])
      else s.offerNothing m path (Session.startMessage e)

def enterWorkspace (fs : Files) (s : Server) (m : Message) (wanted : Option Bytes)
    (project : Option Settings.Project) : Step :=
  let (s, levelled) := s.applyLevel project
  let (path, choice) := s.chooseCatalog wanted project
  let (s', started) := s.startSession fs m path
  (s', levelled ++ s.log choice ++ started)

/-- A workspace opened. Settings that cannot be read are passed over with a record. -/
def openWorkspace (fs : Files) (s : Server) (m : Message) (p : InitializeParams) : Step :=
  let s := { s with projectRoot := Uri.toPath p.rootUri }
  let opened := s.log [.make .info "Project root" [("path", s.projectRoot)]]
  match s.projectSettings fs with
  | .ok project =>
    let (s, outputs) := s.enterWorkspace fs m p.catalogPath project
    (s, opened ++ outputs)
  | .error e =>
    if e.isBreakdown then ({ s with broken := true }, opened)
    else
      let (s', outputs) := s.enterWorkspace fs m p.catalogPath none
      (s', opened ++ s.log [s.projectFault e] ++ outputs)

def noCatalogNotice : Sent :=
  .notification (utf8 "window/showMessage") (.object [Json.field "type" (.ofNat 1),
    Json.field "message" (.ofText (utf8 ("NVGT function catalog could not be loaded. " ++
      "Completion and signature help are unavailable; check catalog_path in nvgtls.yaml.")))])

def confirmWorkspace (s : Server) : Step :=
  ({ s with initialized := true },
    s.log [.make .info "Server initialized" []] ++
      if s.session.isNone then [.message noCatalogNotice] else [])

def closeSession (s : Server) : Server × List Record :=
  match s.session with
  | none => (s, [])
  | some session =>
    let (session, records) := session.shutdown
    ({ s with session := some session }, records)

def shutdown (s : Server) (m : Message) : Step :=
  let (s, records) := closeSession { s with stopped := true }
  (s, s.log records ++ [answer m .null] ++ s.log [.make .info "Server shutdown" []])

def exit (s : Server) : Step :=
  let (s, records) := closeSession { s with stopped := true }
  (s, s.log (records ++ [.make .info "Server exit" []]))

def openDocument (s : Server) (d : DocumentItem) : Step :=
  ({ s with documents := s.documents.open d.uri d.text d.version },
    s.log [.make .debug "Opened" [("uri", d.uri)]])

def closeDocument (s : Server) (uri : Bytes) : Step :=
  ({ s with documents := s.documents.close uri }, s.log [.make .debug "Closed" [("uri", uri)]])

/-- A document changed: the last change holds its whole text. -/
def changeDocument (s : Server) (p : ChangeParams) : Step :=
  match p.changes.toList.getLast? with
  | none => (s, [])
  | some c =>
    ({ s with documents := s.documents.update p.document.uri c.text p.document.version }, [])

def completions (s : Server) : List Completion × List Record :=
  match s.session with
  | none => ([], [])
  | some session => match session.completions with
    | .ok cs => (cs, [])
    | .error e => ([], [.make .warn "Completion unavailable" [("error", e.message)]])

def boolText (b : Bool) : Bytes := if b then utf8 "true" else utf8 "false"

def signatureHelp (s : Server) (p : PlaceParams) : Option SignatureHelp × List Record :=
  match s.session, s.documents.get? p.uri with
  | some session, some d =>
    let (line, offset) := d.lineAt p.position
    match session.signatureHelp line offset with
    | .error e => (none, [.make .warn "Signature help unavailable" [("error", e.message)]])
    | .ok (none, records) => (none, records)
    | .ok (some h, records) =>
      let asked := match p.context with
        | none => []
        | some c => [.make .debug "Signature help" [("kind", Bytes.ofInt c.kind),
            ("trigger", c.trigger), ("retrigger", boolText c.retrigger),
            ("signature", Bytes.ofNat h.activeSignature),
            ("parameter", Bytes.ofNat h.activeParameter)]]
      (some h, records ++ asked)
  | _, _ => (none, [])

def hover (s : Server) (p : PlaceParams) : Option (Function × Range) :=
  match s.session, s.documents.get? p.uri with
  | some session, some d =>
    let (word, range) := d.wordAt p.position
    if word.isEmpty then none else (session.describe word).map fun f => (f, range)
  | _, _ => none

/-- What the server does with the methods it knows; anything else that has an identifier is
answered with an error. -/
def dispatch (fs : Files) (s : Server) (m : Message) : Step :=
  let is (name : String) : Bool := m.method == utf8 name
  if is "initialize" then
    match readInitialize m.params with
    | none => s.rejectRequest m
    | some p => s.openWorkspace fs m p
  else if is "initialized" then s.confirmWorkspace
  else if is "shutdown" then s.shutdown m
  else if is "exit" then s.exit
  else if is "textDocument/didOpen" then
    match readOpen m.params with
    | none => s.rejectNotification m
    | some d => s.openDocument d
  else if is "textDocument/didClose" then
    match readClose m.params with
    | none => s.rejectNotification m
    | some uri => s.closeDocument uri
  else if is "textDocument/didChange" then
    match readChange m.params with
    | none => s.rejectNotification m
    | some p => s.changeDocument p
  else if is "textDocument/completion" then
    match readPlace m.params with
    | none => s.rejectRequest m
    | some _ =>
      let (cs, records) := s.completions
      (s, s.log records ++ [answer m (completionResult cs)])
  else if is "textDocument/signatureHelp" then
    match readHelp m.params with
    | none => s.rejectRequest m
    | some p =>
      let (h, records) := s.signatureHelp p
      (s, s.log records ++ [answer m ((h.map helpResult).getD .null)])
  else if is "textDocument/hover" then
    match readPlace m.params with
    | none => s.rejectRequest m
    | some p => (s, [answer m (((s.hover p).map fun (f, r) => hoverResult f r).getD .null)])
  else if m.id.isSome then
    (s, [.message (.error m.id methodNotFound (utf8 "Method not found: " ++ m.method))])
  else (s, [])

def handle (fs : Files) (s : Server) (m : Message) : Step :=
  let received := s.log [.make .debug "Received" [("method", m.method)]]
  let (s, outputs) := s.dispatch fs m
  (s, received ++ outputs)

end Server

end CallAssist
