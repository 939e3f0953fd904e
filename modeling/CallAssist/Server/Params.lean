import CallAssist.Document.Basic
import CallAssist.Json.Update

/-!
The parameters that messages bring, read from JSON. Fields that are missing keep a neutral value.
-/

namespace CallAssist

namespace Server

open Json (Update)

/-- The parameters of `initialize`. -/
structure InitializeParams where
  processId : Int
  rootUri : Bytes
  catalogPath : Option Bytes

def InitializeParams.update : Update InitializeParams := Update.record [
  Update.member "processId" processId (fun p v => { p with processId := v }) .integer,
  Update.member "rootUri" rootUri (fun p v => { p with rootUri := v }) .text,
  Update.member "initializationOptions" catalogPath (fun p v => { p with catalogPath := v })
    (.optional [] (Update.record [Update.member "catalogPath" (fun t => t) (fun _ t => t) .text]))]

/-- A document as it is opened. -/
structure DocumentItem where
  uri : Bytes
  languageId : Bytes
  version : Int
  text : Bytes

def DocumentItem.update : Update DocumentItem := Update.record [
  Update.member "uri" uri (fun d v => { d with uri := v }) .text,
  Update.member "languageId" languageId (fun d v => { d with languageId := v }) .text,
  Update.member "version" version (fun d v => { d with version := v }) .integer,
  Update.member "text" text (fun d v => { d with text := v }) .text]

def updateUri : Update Bytes :=
  Update.record [Update.member "uri" (fun t => t) (fun _ t => t) .text]

/-- A document with a version. -/
structure VersionedUri where
  uri : Bytes
  version : Int

def VersionedUri.update : Update VersionedUri := Update.record [
  Update.member "uri" uri (fun d v => { d with uri := v }) .text,
  Update.member "version" version (fun d v => { d with version := v }) .integer]

def updatePosition : Update Position := Update.record [
  Update.member "line" Position.line (fun p v => { p with line := v }) .word,
  Update.member "character" Position.character (fun p v => { p with character := v }) .word]

def updateRange : Update Range := Update.record [
  Update.member "start" Range.start (fun r v => { r with start := v }) updatePosition,
  Update.member "end" Range.stop (fun r v => { r with stop := v }) updatePosition]

/-- A change of a document. Only its text is used. -/
structure Change where
  range : Option Range
  rangeLength : UInt32
  text : Bytes

def Change.update : Update Change := Update.record [
  Update.member "range" range (fun c v => { c with range := v })
    (.optional ⟨⟨0, 0⟩, ⟨0, 0⟩⟩ updateRange),
  Update.member "rangeLength" rangeLength (fun c v => { c with rangeLength := v }) .word,
  Update.member "text" text (fun c v => { c with text := v }) .text]

/-- The parameters of a change. -/
structure ChangeParams where
  document : VersionedUri
  changes : Json.Cells Change

def ChangeParams.update : Update ChangeParams := Update.record [
  Update.member "textDocument" document (fun p v => { p with document := v }) VersionedUri.update,
  Update.member "contentChanges" changes (fun p v => { p with changes := v })
    (Json.Cells.update ⟨none, 0, []⟩ Change.update)]

/-- How help was asked for. -/
structure HelpContext where
  kind : Int
  trigger : Bytes
  retrigger : Bool

def HelpContext.update : Update HelpContext := Update.record [
  Update.member "triggerKind" kind (fun c v => { c with kind := v }) .integer,
  Update.member "triggerCharacter" trigger (fun c v => { c with trigger := v }) .text,
  Update.member "isRetrigger" retrigger (fun c v => { c with retrigger := v }) .flag]

/-- A place in a document, and for signature help how it was asked for. -/
structure PlaceParams where
  uri : Bytes
  position : Position
  context : Option HelpContext

private def placeReaders : List (Bytes × Update PlaceParams) := [
  Update.member "textDocument" PlaceParams.uri (fun p v => { p with uri := v }) updateUri,
  Update.member "position" PlaceParams.position (fun p v => { p with position := v })
    updatePosition]

def PlaceParams.update : Update PlaceParams := Update.record placeReaders

def PlaceParams.updateWithContext : Update PlaceParams := Update.record (placeReaders ++ [
  Update.member "context" context (fun p v => { p with context := v })
    (.optional ⟨0, [], false⟩ HelpContext.update)])

/-- Parameters read from the JSON that a message brings; none when it brings none. -/
def readParams {α : Type} (fresh : α) (u : Update α) (params : Option Json) : Option α :=
  params.bind (u fresh)

def readInitialize : Option Json → Option InitializeParams :=
  readParams ⟨0, [], none⟩ InitializeParams.update

def readOpen : Option Json → Option DocumentItem :=
  readParams ⟨[], [], 0, []⟩
    (Update.record [Update.member "textDocument" (fun d => d) (fun _ d => d) DocumentItem.update])

def readClose : Option Json → Option Bytes :=
  readParams [] (Update.record [Update.member "textDocument" (fun d => d) (fun _ d => d) updateUri])

def readChange : Option Json → Option ChangeParams :=
  readParams ⟨⟨[], 0⟩, .empty⟩ ChangeParams.update

def readPlace : Option Json → Option PlaceParams :=
  readParams ⟨[], ⟨0, 0⟩, none⟩ PlaceParams.update

def readHelp : Option Json → Option PlaceParams :=
  readParams ⟨[], ⟨0, 0⟩, none⟩ PlaceParams.updateWithContext

end Server

end CallAssist
