import CallAssist.Json.Parser
import CallAssist.Json.Printer
import CallAssist.Json.Update

/-!
Messages between editor and server, and the frames that carry them: a header with the length of the
body, a blank line, and the body.
-/

namespace CallAssist

namespace Server

/-- An error in a message. -/
structure Fault where
  code : Int
  message : Bytes

/-- A message as it is received. A missing identifier and a null one are the same. -/
structure Message where
  version : Bytes
  id : Option Json
  method : Bytes
  params : Option Json
  result : Option Json
  error : Option Fault

namespace Message

def empty : Message := ⟨[], none, [], none, none, none⟩

def updateFault : Json.Update Fault := Json.Update.record [
  Json.Update.member "code" Fault.code (fun e v => { e with code := v }) .integer,
  Json.Update.member "message" Fault.message (fun e v => { e with message := v }) .text,
  Json.Update.member "data" (fun _ => ()) (fun e _ => e) .checked]

def update : Json.Update Message := Json.Update.record [
  Json.Update.member "jsonrpc" version (fun m v => { m with version := v }) .text,
  Json.Update.member "id" id (fun m v => { m with id := v }) (.optional .null fun _ v => some v),
  Json.Update.member "method" method (fun m v => { m with method := v }) .text,
  Json.Update.member "params" params (fun m v => { m with params := v }) .verbatim,
  Json.Update.member "result" result (fun m v => { m with result := v }) .verbatim,
  Json.Update.member "error" error (fun m v => { m with error := v })
    (.optional ⟨0, []⟩ updateFault)]

def parse? (body : Bytes) : Option Message := (Json.parse body).bind (update empty)

end Message

def frame (body : Bytes) : Bytes :=
  utf8 "Content-Length: " ++ Bytes.ofNat body.length ++ utf8 "\r\n\r\n" ++ body

/-- A message that is sent: an answer with a result or an error, or a notification. -/
inductive Sent where
  | result (id : Option Json) (value : Json)
  | error (id : Option Json) (code : Int) (message : Bytes)
  | notification (method : Bytes) (params : Json)

namespace Sent

def head (id : Option Json) : List (Bytes × Json) :=
  Json.field "jsonrpc" (.ofText (utf8 "2.0")) :: (id.map (Json.field "id")).toList

def json : Sent → Json
  | .result id value => .object (head id ++ [Json.field "result" value])
  | .error id code message =>
    .object (head id ++ [Json.field "error" (.object [Json.field "code" (.ofInt code),
      Json.field "message" (.ofText message)])])
  | .notification method params =>
    .object (head none ++ [Json.field "method" (.ofText method), Json.field "params" params])

def write (m : Sent) : Bytes := frame m.json.write

end Sent

end Server

end CallAssist
