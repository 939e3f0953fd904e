import CallAssist.Proofs.Server.Header
import CallAssist.Server.Run

/-! A run over the rest of a stream, one frame at a time and without a bound on the steps. -/

namespace CallAssist

namespace Server

def serve (fs : Files) (s : Server) (t : Bytes) : Run := loop fs (t.length + 1) s t

def Run.outputs (r : Run) : List Output := r.turns.flatMap Turn.outputs

def written (os : List Output) : Bytes :=
  os.flatMap fun
    | .message m => m.write
    | .record _ => []

def Run.written (r : Run) : Bytes := Server.written r.outputs

@[simp] theorem written_nil : written [] = [] := rfl

@[simp] theorem written_append (os os' : List Output) :
    written (os ++ os') = written os ++ written os' :=
  List.flatMap_append

@[simp] theorem written_log (s : Server) (rs : List Record) : written (s.log rs) = [] := by
  rw [written, log, List.flatMap_map]
  exact List.flatMap_eq_nil_iff.mpr fun _ _ => rfl

@[simp] theorem Run.outputs_after (t : Turn) (r : Run) :
    (r.after t).outputs = t.outputs ++ r.outputs := rfl

@[simp] theorem Run.server_after (t : Turn) (r : Run) : (r.after t).server = r.server := rfl

@[simp] theorem Run.stop_after (t : Turn) (r : Run) : (r.after t).stop = r.stop := rfl

private theorem loop_fuel (fs : Files) {f g : Nat} (s : Server) (t : Bytes)
    (hf : t.length < f) (hg : t.length < g) : loop fs f s t = loop fs g s t := by
  induction f generalizing g s t with
  | zero => exact absurd hf (Nat.not_lt_zero _)
  | succ f ih =>
    obtain ⟨g, rfl⟩ : ∃ k, g = k + 1 := ⟨g - 1, by omega⟩
    cases hr : readFrame t with
    | closed => simp only [loop, hr]
    | crashed rest => simp only [loop, hr]
    | failed e rest =>
      have hlt := readFrame_failed_lt hr
      simp only [loop, hr, ih s rest (g := g) (by omega) (by omega)]
    | message m rest =>
      have hlt := readFrame_message_lt hr
      simp only [loop, hr, ih (s.handle fs m).1 rest (g := g) (by omega) (by omega)]

theorem serve_broken {s : Server} (hb : s.broken = true) (fs : Files) (t : Bytes) :
    serve fs s t = ⟨[], s, .crashed⟩ := by
  simp [serve, loop, hb]

theorem serve_stopped {s : Server} (hb : s.broken = false) (hs : s.stopped = true) (fs : Files)
    (t : Bytes) : serve fs s t = ⟨[], s, .told⟩ := by
  simp [serve, loop, hb, hs]

/-- A server that has stopped or broken down takes nothing more from a stream. -/
theorem serve_ended {s : Server} (h : s.stopped = true ∨ s.broken = true) (fs : Files)
    (t : Bytes) : serve fs s t = ⟨[], s, if s.broken then .crashed else .told⟩ := by
  by_cases hb : s.broken = true
  · rw [serve_broken hb, if_pos hb]
  · rw [Bool.not_eq_true] at hb
    have hs : s.stopped = true := h.resolve_right (by simp [hb])
    rw [serve_stopped hb hs, hb]
    rfl

section Running

variable {s : Server} (hb : s.broken = false) (hs : s.stopped = false) (fs : Files)
include hb hs

theorem serve_closed {t : Bytes} (h : readFrame t = .closed) :
    serve fs s t = ⟨[⟨0, true, s.disconnect.2⟩], s.disconnect.1, .disconnected⟩ := by
  simp [serve, loop, hb, hs, h]

theorem serve_crashed {t rest : Bytes} (h : readFrame t = .crashed rest) :
    serve fs s t = ⟨[⟨rest.length, false, []⟩], s, .crashed⟩ := by
  simp [serve, loop, hb, hs, h]

theorem serve_failed {t rest : Bytes} {e : FrameError} (h : readFrame t = .failed e rest) :
    serve fs s t =
      (serve fs s rest).after ⟨rest.length, e == .shortBody, s.log [frameFault e]⟩ := by
  have hlt := readFrame_failed_lt h
  rw [serve, loop]
  simp only [hb, hs, h, Bool.false_eq_true, if_false]
  rw [loop_fuel fs s rest hlt (Nat.lt_succ_self _), serve]

theorem serve_message {t rest : Bytes} {m : Message} (h : readFrame t = .message m rest) :
    serve fs s t =
      (serve fs (s.handle fs m).1 rest).after ⟨rest.length, false, (s.handle fs m).2⟩ := by
  have hlt := readFrame_message_lt h
  rw [serve, loop]
  simp only [hb, hs, h, Bool.false_eq_true, if_false]
  rw [loop_fuel fs (s.handle fs m).1 rest hlt (Nat.lt_succ_self _), serve]

end Running

theorem run_eq_serve (fs : Files) (s : Server) (t : Bytes) :
    run fs s t = (serve fs s t).after ⟨t.length, false, s.log [greeting]⟩ := rfl

/-- The end of the stream closes the session and changes nothing else. -/
theorem disconnect_fst (s : Server) : s.disconnect.1 = s.closeSession.1 := rfl

theorem written_disconnect (s : Server) : written s.disconnect.2 = [] := written_log _ _

end Server

end CallAssist
