import CallAssist.Document.Basic
import CallAssist.Json.Text
import CallAssist.Session

/-!
What the server answers, as JSON. Empty optional parts are left out.
-/

namespace CallAssist

namespace Server

def textField (key : String) (t : Bytes) : List (Bytes × Json) :=
  if t.isEmpty then [] else [Json.field key (.ofText t)]

def markdown (t : Bytes) : Json :=
  .object [Json.field "kind" (.ofText (utf8 "markdown")), Json.field "value" (.ofText t)]

def featureFields (c : Catalog) : List (Bytes × Json) :=
  let triggers := if c.triggers.isEmpty then []
    else [Json.field "triggerCharacters" (.array (c.triggers.map .ofText))]
  [Json.field "completionProvider" (.object triggers),
    Json.field "signatureHelpProvider" (.object [Json.field "triggerCharacters"
      (.array [.ofText (utf8 "("), .ofText (utf8 ",")])]),
    Json.field "hoverProvider" (.bool true)]

/-- The answer to `initialize`: features are offered exactly when there is a catalogue. -/
def initializeResult (version : Bytes) (c : Option Catalog) : Json :=
  .object [
    Json.field "capabilities" (.object (
      Json.field "textDocumentSync" (.object [Json.field "openClose" (.bool true),
        Json.field "change" (.ofNat 1)]) ::
      (c.map featureFields).getD [])),
    Json.field "serverInfo" (.object (
      Json.field "name" (.ofText (utf8 "nvgtls")) :: textField "version" version))]

def completionItem (c : Completion) : Json :=
  .object ([Json.field "label" (.ofText c.label), Json.field "kind" (.ofNat 3)] ++
    textField "detail" c.detail ++ [Json.field "documentation" (markdown c.documentation)] ++
    textField "insertText" c.insertText)

def completionResult (cs : List Completion) : Json :=
  .object [Json.field "isIncomplete" (.bool false),
    Json.field "items" (.array (cs.map completionItem))]

def signatureItem (i : SignatureInfo) : Json :=
  .object ([Json.field "label" (.ofText i.label)] ++ textField "documentation" i.documentation ++
    [Json.field "parameters" (.array (i.parameters.map fun p =>
      .object [Json.field "label" (.ofText p)]))])

/-- The answer to a request for help. Positions are sent in 32 bits. -/
def helpResult (h : SignatureHelp) : Json :=
  .object [Json.field "signatures" (.array (h.signatures.map signatureItem)),
    Json.field "activeSignature" (.ofNat h.activeSignature.toUInt32.toNat),
    Json.field "activeParameter" (.ofNat h.activeParameter.toUInt32.toNat)]

def positionJson (p : Position) : Json :=
  .object [Json.field "line" (.ofNat p.line.toNat),
    Json.field "character" (.ofNat p.character.toNat)]

def hoverText (f : Function) : Bytes :=
  utf8 "```nvgt\n" ++ f.signature ++ utf8 "\n```" ++
    if f.description.isEmpty then [] else utf8 "\n\n" ++ f.description

def hoverResult (f : Function) (r : Range) : Json :=
  .object [Json.field "contents" (markdown (hoverText f)),
    Json.field "range" (.object [Json.field "start" (positionJson r.start),
      Json.field "end" (positionJson r.stop)])]

end Server

end CallAssist
