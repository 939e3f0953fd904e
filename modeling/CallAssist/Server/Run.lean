import CallAssist.Server.Basic
import CallAssist.Server.Frame

/-!
A server reading messages from a stream until it is told to stop, the stream ends, or it breaks
down: a frame asks for more memory than there can be, or a file cannot be coped with.
-/

namespace CallAssist

namespace Server

/-- How a run ends. -/
inductive Stop where
  | told
  | disconnected
  | crashed
  deriving DecidableEq, Repr

/-- What happened at one point of a run: how many bytes were left to read then, whether the end of
the stream had been seen, and what was put out. -/
structure Turn where
  left : Nat
  atEnd : Bool
  outputs : List Output

/-- A whole run. -/
structure Run where
  turns : List Turn
  server : Server
  stop : Stop

def Run.after (t : Turn) (r : Run) : Run := { r with turns := t :: r.turns }

def frameFault (e : FrameError) : Record :=
  .make .error "Error reading message" [("error", e.message)]

def disconnect (s : Server) : Server × List Output :=
  let gone : Record := .make .info "Client disconnected" []
  let (s, records) := s.closeSession
  (s, s.log (gone :: records))

def loop (fs : Files) : Nat → Server → Bytes → Run
  | 0, s, _ => ⟨[], s, .disconnected⟩
  | fuel + 1, s, t =>
    if s.broken then ⟨[], s, .crashed⟩
    else if s.stopped then ⟨[], s, .told⟩
    else match readFrame t with
      | .closed =>
        let (s, outputs) := s.disconnect
        ⟨[⟨0, true, outputs⟩], s, .disconnected⟩
      | .crashed rest => ⟨[⟨rest.length, false, []⟩], s, .crashed⟩
      | .failed e rest =>
        (loop fs fuel s rest).after ⟨rest.length, e == .shortBody, s.log [frameFault e]⟩
      | .message m rest =>
        let (s, outputs) := s.handle fs m
        (loop fs fuel s rest).after ⟨rest.length, false, outputs⟩

def greeting : Record := .make .info "NVGT language server starting..." []

def run (fs : Files) (s : Server) (input : Bytes) : Run :=
  (loop fs (input.length + 1) s input).after
    ⟨input.length, false, s.log [greeting]⟩

end Server

end CallAssist
