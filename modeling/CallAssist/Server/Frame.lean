import CallAssist.Log.Level
import CallAssist.Server.Message
import CallAssist.Text.Blank

/-!
Reading frames from a stream of bytes. A faulty frame is reported and reading goes on after the part
of it that was read.
-/

namespace CallAssist

namespace Server

/-- What is wrong with a frame. -/
inductive FrameError where
  | length (text : Bytes) (fault : Integer.Fault)
  | noLength
  | shortBody
  | body
  deriving DecidableEq, Repr

def FrameError.message : FrameError → Bytes
  | .length t f => utf8 "invalid Content-Length: " ++ f.describe (utf8 "Atoi") t
  | .noLength => utf8 "missing Content-Length header"
  | .shortBody => utf8 "error reading body: unexpected EOF"
  | .body => utf8 "error parsing message: [json]"

def lengthHeader : Bytes := utf8 "Content-Length: "

/-- What the header lines of a frame come to. -/
inductive Header where
  | length (n : Int) (rest : Bytes)
  | bad (text : Bytes) (fault : Integer.Fault) (rest : Bytes)
  | cut

/-- Header lines up to a blank one. The last length counts; without a line end there is no line. -/
def readHeader : Nat → Int → Bytes → Header
  | 0, _, _ => .cut
  | fuel + 1, n, t =>
    match Bytes.cut 0x0A t with
    | none => .cut
    | some (line, rest) =>
      let line := Bytes.trim line
      if line.isEmpty then .length n rest
      else match Bytes.dropFront? lengthHeader line with
        | none => readHeader fuel n rest
        | some digits => match Integer.decimal digits with
          | .error f => .bad digits f rest
          | .ok n => readHeader fuel n rest

/-- No body can be longer than this. -/
def maxLength : Int := 0x1000000000000

/-- What reading one frame comes to. `crashed` stands for a length that no memory can have. -/
inductive Reading where
  | message (m : Message) (rest : Bytes)
  | failed (e : FrameError) (rest : Bytes)
  | closed
  | crashed (rest : Bytes)

/-- One frame read from a stream. A body that is cut off after it has begun is a fault; a stream
that ends before that is closed. -/
def readFrame (t : Bytes) : Reading :=
  match readHeader (t.length + 1) 0 t with
  | .cut => .closed
  | .bad digits f rest => .failed (.length digits f) rest
  | .length n rest =>
    if n = 0 then .failed .noLength rest
    else if n < 0 || maxLength < n then .crashed rest
    else if rest.isEmpty then .closed
    else if rest.length < n.toNat then .failed .shortBody []
    else match Message.parse? (rest.take n.toNat) with
      | none => .failed .body (rest.drop n.toNat)
      | some m => .message m (rest.drop n.toNat)

end Server

end CallAssist
