import CallAssist.Proofs.Call.Grammar
import CallAssist.Proofs.Server.Dispatch
import CallAssist.Proofs.Server.Stream
import CallAssist.Proofs.Text.Decimal

/-! A stream that is made of frames. The server takes one message from each frame that holds one,
in order, and stops after the first that tells it to. -/

namespace CallAssist

namespace Server

/-- A frame: header lines in any order, one of which gives the length of the body, a blank line and
the body. No body is longer than memory can be. -/
structure Frame where
  before : List Bytes
  given : Bytes
  after : List Bytes
  blank : Bytes
  body : Bytes
  others_lines : ∀ line ∈ before ++ after, IsHeaderLine line
  others_give_none : ∀ line ∈ before ++ after, ¬ lengthHeader <+: Bytes.trim line
  given_line : 0x0A ∉ given
  given_length : Bytes.trim given = lengthHeader ++ Bytes.ofNat body.length
  blank_line : IsBlankLine blank
  body_fits : body.length ≤ maxLength

namespace Frame

def bytes (f : Frame) : Bytes :=
  lineText (f.before ++ f.given :: f.after) ++ f.blank ++ 0x0A :: f.body

def message? (f : Frame) : Option Message := Message.parse? f.body

private theorem lengthAfter_others {lines : List Bytes}
    (h : ∀ line ∈ lines, ¬ lengthHeader <+: Bytes.trim line) (n : Int) :
    lines.foldlM lengthAfter n = some n := by
  induction lines with
  | nil => rfl
  | cons line lines ih =>
    have hl : lengthAfter n line = some n := by
      rw [lengthAfter, Bytes.dropFront?_eq_none (h line List.mem_cons_self)]
    rw [List.foldlM_cons, hl]
    exact ih fun l hm => h l (List.mem_cons_of_mem _ hm)

private theorem lengthAfter_given (f : Frame) (n : Int) :
    lengthAfter n f.given = some f.body.length := by
  have hfits : f.body.length < 0x8000000000000000 := by
    have := f.body_fits
    rw [maxLength] at this
    omega
  simp only [lengthAfter, f.given_length, Bytes.dropFront?_append, Integer.decimal_ofNat hfits]
  rfl

theorem startsWithHeader (f : Frame) (rest : Bytes) :
    StartsWithHeader 0 (f.bytes ++ rest) f.body.length (f.body ++ rest) := by
  have hgiven : IsHeaderLine f.given := ⟨f.given_line, by
    rw [f.given_length]
    exact fun h => Bytes.ofNat_ne_nil _ (List.append_eq_nil_iff.mp h).2⟩
  refine ⟨f.before ++ f.given :: f.after, f.blank, by simp [bytes], ?_, f.blank_line, ?_⟩
  · intro line hm
    rcases List.mem_append.mp hm with hb | ha
    · exact f.others_lines line (List.mem_append_left _ hb)
    · rcases List.mem_cons.mp ha with rfl | ha
      · exact hgiven
      · exact f.others_lines line (List.mem_append_right _ ha)
  · have hb : f.before.foldlM lengthAfter 0 = some 0 :=
      lengthAfter_others (fun l hm => f.others_give_none l (List.mem_append_left _ hm)) 0
    have ha : f.after.foldlM lengthAfter f.body.length = some (f.body.length : Int) :=
      lengthAfter_others (fun l hm => f.others_give_none l (List.mem_append_right _ hm)) _
    rw [List.foldlM_append, hb]
    change (f.given :: f.after).foldlM lengthAfter 0 = _
    rw [List.foldlM_cons, f.lengthAfter_given 0]
    exact ha

def fault (f : Frame) : FrameError := if f.body = [] then .noLength else .body

/-- A frame is read as one whatever follows it: its message is taken, or a fault reported. -/
theorem readFrame_bytes (f : Frame) (rest : Bytes) : readFrame (f.bytes ++ rest) =
    match f.message? with
    | some m => .message m rest
    | none => .failed f.fault rest := by
  have hh := readHeader_eq_length.mpr (f.startsWithHeader rest)
  unfold readFrame
  simp only [hh]
  by_cases he : f.body = []
  · have hm : f.message? = none := by
      rw [message?, he]
      rfl
    simp [hm, fault, he]
  · have hpos : 0 < f.body.length := List.length_pos_iff.mpr he
    have hfits := f.body_fits
    have h0 : ¬ (f.body.length : Int) = 0 := by omega
    have h1 : ¬ (decide ((f.body.length : Int) < 0) || decide (maxLength < f.body.length)) = true := by
      simp only [Bool.or_eq_true, decide_eq_true_eq]
      omega
    have h2 : ¬ (f.body ++ rest).isEmpty = true := by simp [he]
    have h3 : ¬ (f.body ++ rest).length < (f.body.length : Int).toNat := by simp
    simp only [if_neg h0, if_neg h1, if_neg h2, if_neg h3]
    rw [Int.toNat_natCast, List.take_left, List.drop_left]
    rw [message?, fault, if_neg he]
    cases Message.parse? f.body with
    | none => rfl
    | some m => rfl

private theorem length_line_ascii (n : Nat) : ∀ b ∈ lengthHeader ++ Bytes.ofNat n, b < 0x80 := by
  intro b hb
  rcases List.mem_append.mp hb with hb | hb
  · have hall : ∀ b ∈ lengthHeader, b < 0x80 := by decide +kernel
    exact hall b hb
  · have hd := Bytes.isDigit_of_mem_ofNat n b hb
    simp only [Bytes.isDigit, Bool.and_eq_true, decide_eq_true_eq, UInt8.le_iff_toNat_le] at hd
    rw [UInt8.lt_iff_toNat_lt]
    exact lt_of_le_of_lt hd.2 (by decide)

private theorem digit_not_blank {b : UInt8} (h : Bytes.isDigit b = true) :
    Rune.isBlank (.point (Char.ofNat b.toNat)) = false := by
  simp only [Bytes.isDigit, Bool.and_eq_true, decide_eq_true_eq, UInt8.le_iff_toNat_le] at h
  have hl : 0x30 ≤ b.toNat := h.1
  have hu : b.toNat ≤ 0x39 := h.2
  generalize b.toNat = n at hl hu
  interval_cases n <;> rfl

/-- The carriage return of a length line is trimmed off, and nothing else. -/
theorem trim_length_line (n : Nat) :
    Bytes.trim (lengthHeader ++ Bytes.ofNat n ++ [0x0D]) = lengthHeader ++ Bytes.ofNat n := by
  have hr := Bytes.runes_of_ascii (length_line_ascii n)
  refine (Bytes.trims_iff.mp ⟨[], Bytes.runes (lengthHeader ++ Bytes.ofNat n), [.point '\r'],
    ?_, by simp, ?_, ?_, ?_, by simp⟩).symm
  · rw [hr, Bytes.runes_of_ascii]
    · simp
    · intro b hb
      rcases List.mem_append.mp hb with hb | hb
      · exact length_line_ascii n b hb
      · rw [List.mem_singleton.mp hb]
        decide
  · intro r hm
    rw [List.mem_singleton.mp hm]
    rfl
  · rw [hr]
    intro r hm
    obtain rfl := Option.some.inj hm
    rfl
  · rw [hr, List.map_append, List.getLast?_append_of_ne_nil _ (by simpa using Bytes.ofNat_ne_nil n)]
    intro r hm
    obtain ⟨b, hb, rfl⟩ := List.mem_map.mp (List.mem_of_getLast? hm)
    exact digit_not_blank (Bytes.isDigit_of_mem_ofNat n b hb)

def ofBody (body : Bytes) (h : body.length ≤ maxLength) : Frame where
  before := []
  given := lengthHeader ++ Bytes.ofNat body.length ++ [0x0D]
  after := []
  blank := [0x0D]
  body := body
  others_lines := by simp
  others_give_none := by simp
  given_line hm := by
    rcases List.mem_append.mp hm with hm | hm
    · rcases List.mem_append.mp hm with hm | hm
      · exact absurd hm (by decide)
      · exact absurd (Bytes.isDigit_of_mem_ofNat _ _ hm) (by decide)
    · exact absurd hm (by decide)
  given_length := trim_length_line body.length
  blank_line := by
    constructor
    · decide
    · decide +kernel
  body_fits := h

theorem bytes_ofBody (body : Bytes) (h : body.length ≤ maxLength) :
    (ofBody body h).bytes = frame body := by
  have hend : utf8 "\r\n\r\n" = [0x0D, 0x0A, 0x0D, 0x0A] := by decide
  simp [bytes, ofBody, frame, hend, lengthHeader]

end Frame

def stream (frames : List Frame) : Bytes := frames.flatMap Frame.bytes

def handleNext (fs : Files) : Step → Message → Step
  | (s, os), m => if s.broken then (s, os) else ((s.handle fs m).1, os ++ (s.handle fs m).2)

def handleAll (fs : Files) (s : Server) (ms : List Message) : Step :=
  ms.foldl (handleNext fs) (s, [])

/-- The messages up to the first that tells the server to stop, and that one. -/
def upToStop : List Message → List Message
  | [] => []
  | m :: ms => if m.isStop then [m] else m :: upToStop ms

@[simp] theorem handleAll_nil (fs : Files) (s : Server) : handleAll fs s [] = (s, []) := rfl

private theorem foldl_handleNext (fs : Files) (s : Server) (os : List Output)
    (ms : List Message) : ms.foldl (handleNext fs) (s, os) =
      ((handleAll fs s ms).1, os ++ (handleAll fs s ms).2) := by
  unfold handleAll
  induction ms generalizing s os with
  | nil => simp
  | cons m ms ih =>
    simp only [List.foldl_cons, handleNext]
    by_cases hb : s.broken = true
    · simp only [hb, if_true]
      exact ih s os
    · simp only [hb, Bool.false_eq_true, if_false]
      rw [ih, ih (s.handle fs m).1 ([] ++ (s.handle fs m).2)]
      simp

theorem handleAll_cons {s : Server} (hb : s.broken = false) (fs : Files) (m : Message)
    (ms : List Message) : handleAll fs s (m :: ms) =
      ((handleAll fs (s.handle fs m).1 ms).1,
        (s.handle fs m).2 ++ (handleAll fs (s.handle fs m).1 ms).2) := by
  rw [← foldl_handleNext, handleAll, List.foldl_cons]
  simp [handleNext, hb]

theorem handleAll_broken {s : Server} (hb : s.broken = true) (fs : Files) (ms : List Message) :
    handleAll fs s ms = (s, []) := by
  induction ms with
  | nil => rfl
  | cons m ms ih =>
    rw [handleAll, List.foldl_cons, show handleNext fs (s, []) m = (s, []) by simp [handleNext, hb]]
    exact ih

/-- A server that was to handle a message which tells it to stop has stopped, or broken down. -/
theorem handleAll_stops (fs : Files) (s : Server) {ms : List Message}
    (h : ∃ m ∈ ms, m.isStop = true) :
    (handleAll fs s (upToStop ms)).1.stopped = true ∨
      (handleAll fs s (upToStop ms)).1.broken = true := by
  induction ms generalizing s with
  | nil => simp at h
  | cons m ms ih =>
    by_cases hb : s.broken = true
    · rw [handleAll_broken hb]
      exact .inr hb
    · rw [Bool.not_eq_true] at hb
      by_cases hm : m.isStop = true
      · rw [upToStop, if_pos hm, handleAll_cons hb, handleAll_nil, handle_stopped, hm]
        simp
      · rw [upToStop, if_neg hm, handleAll_cons hb]
        refine ih _ ?_
        obtain ⟨k, hk, hs⟩ := h
        rcases List.mem_cons.mp hk with rfl | hk
        · exact absurd hs hm
        · exact ⟨k, hk, hs⟩

/-- Frames in front of a stream are served by handling their messages; what follows them is served
by the server this leads to. -/
theorem serve_stream (fs : Files) (frames : List Frame) {s : Server} (hs : s.stopped = false) :
    let final := handleAll fs s (upToStop (frames.filterMap Frame.message?))
    ∃ os, written os = written final.2 ∧ ∀ tail,
      (serve fs s (stream frames ++ tail)).server = (serve fs final.1 tail).server ∧
      (serve fs s (stream frames ++ tail)).stop = (serve fs final.1 tail).stop ∧
      (serve fs s (stream frames ++ tail)).outputs = os ++ (serve fs final.1 tail).outputs := by
  induction frames generalizing s with
  | nil => exact ⟨[], rfl, fun tail => ⟨rfl, rfl, rfl⟩⟩
  | cons f frames ih =>
    intro final
    by_cases hb : s.broken = true
    · have hf : final = (s, []) := handleAll_broken hb fs _
      refine ⟨[], by rw [hf], fun tail => ?_⟩
      rw [hf, serve_broken hb, serve_broken hb]
      exact ⟨rfl, rfl, rfl⟩
    · rw [Bool.not_eq_true] at hb
      have hstream (tail : Bytes) :
          stream (f :: frames) ++ tail = f.bytes ++ (stream frames ++ tail) := by
        simp [stream]
      cases hm : f.message? with
      | none =>
        have hf : final = handleAll fs s (upToStop (frames.filterMap Frame.message?)) := by
          simp only [final, List.filterMap_cons, hm]
        obtain ⟨os, hw, hr⟩ := ih hs
        have he (rest : Bytes) : readFrame (f.bytes ++ rest) = .failed f.fault rest := by
          rw [f.readFrame_bytes, hm]
        refine ⟨s.log [frameFault f.fault] ++ os, by simp [hw, hf], fun tail => ?_⟩
        obtain ⟨h1, h2, h3⟩ := hr tail
        rw [hstream, serve_failed hb hs fs (he _), hf]
        exact ⟨h1, h2, by simp [h3]⟩
      | some m =>
        have he (rest : Bytes) : readFrame (f.bytes ++ rest) = .message m rest := by
          rw [f.readFrame_bytes, hm]
        by_cases hstop : m.isStop = true
        · have hf : final = s.handle fs m := by
            simp only [final, List.filterMap_cons, hm, upToStop, hstop, if_true,
              handleAll_cons hb, handleAll_nil, List.append_nil]
          have hended : (s.handle fs m).1.stopped = true := by
            rw [handle_stopped, hstop, Bool.or_true]
          refine ⟨(s.handle fs m).2, by rw [hf], fun tail => ?_⟩
          rw [hstream, serve_message hb hs fs (he _), hf, serve_ended (.inl hended),
            serve_ended (.inl hended)]
          exact ⟨rfl, rfl, rfl⟩
        · rw [Bool.not_eq_true] at hstop
          have hf : final = ((handleAll fs (s.handle fs m).1
              (upToStop (frames.filterMap Frame.message?))).1, (s.handle fs m).2 ++
              (handleAll fs (s.handle fs m).1
                (upToStop (frames.filterMap Frame.message?))).2) := by
            simp only [final, List.filterMap_cons, hm, upToStop, hstop, Bool.false_eq_true,
              if_false, handleAll_cons hb]
          have hgoes : (s.handle fs m).1.stopped = false := by
            rw [handle_stopped, hs, hstop]
            rfl
          obtain ⟨os, hw, hr⟩ := ih hgoes
          refine ⟨(s.handle fs m).2 ++ os, by simp [hw, hf], fun tail => ?_⟩
          obtain ⟨h1, h2, h3⟩ := hr tail
          rw [hstream, serve_message hb hs fs (he _), hf]
          exact ⟨h1, h2, by simp [h3]⟩

theorem readFrame_nil : readFrame [] = .closed := rfl

theorem run_stream (fs : Files) (frames : List Frame) {s : Server} (hs : s.stopped = false) :
    let final := handleAll fs s (upToStop (frames.filterMap Frame.message?))
    let r := run fs s (stream frames)
    r.written = written final.2 ∧
    r.server = (if final.1.stopped || final.1.broken then final.1 else final.1.closeSession.1) ∧
    r.stop = (if final.1.broken then .crashed else if final.1.stopped then .told
      else .disconnected) := by
  intro final r
  obtain ⟨os, hw, hr⟩ := serve_stream fs frames hs
  obtain ⟨h1, h2, h3⟩ := hr []
  rw [List.append_nil] at h1 h2 h3
  have hwritten : r.written = written final.2 ++ (serve fs final.1 []).written := by
    simp only [r, run_eq_serve, Run.written, Run.outputs_after, written_append, written_log,
      List.nil_append, h3, hw, final]
  have hserver : r.server = (serve fs final.1 []).server := h1
  have hstop : r.stop = (serve fs final.1 []).stop := h2
  by_cases he : final.1.stopped = true ∨ final.1.broken = true
  · rw [serve_ended he] at hwritten hserver hstop
    refine ⟨by simpa [Run.written, Run.outputs] using hwritten, ?_, ?_⟩
    · have hended : (final.1.stopped || final.1.broken) = true := by simpa using he
      rw [hserver, hended]
      rfl
    · rw [hstop]
      by_cases hb : final.1.broken = true
      · simp [hb]
      · simp [hb, he.resolve_right hb]
  · rw [not_or, Bool.not_eq_true, Bool.not_eq_true] at he
    rw [serve_closed he.2 he.1 fs readFrame_nil] at hwritten hserver hstop
    refine ⟨?_, ?_, ?_⟩
    · rw [hwritten]
      simp [Run.written, Run.outputs, written_disconnect]
    · rw [hserver, disconnect_fst, he.1, he.2]
      rfl
    · rw [hstop, he.1, he.2]
      rfl

/-- A run over frames is a fold over the messages in them, up to the first that tells the server to
stop. The session is closed when the frames end before that. A frame without a message might as
well not be there, and nothing that follows the end of the run matters to it. -/
theorem run_frames_eq_fold (fs : Files) (s : Server) (hs : s.stopped = false)
    (frames : List Frame) :
    let final := handleAll fs s (upToStop (frames.filterMap Frame.message?))
    let r := run fs s (stream frames)
    (r.written = written final.2 ∧
      r.server = (if final.1.stopped || final.1.broken then final.1 else final.1.closeSession.1) ∧
      r.stop = (if final.1.broken then .crashed else if final.1.stopped then .told
        else .disconnected)) ∧
    (∀ before f after, frames = before ++ f :: after → f.message? = none →
      let r' := run fs s (stream (before ++ after))
      r'.written = r.written ∧ r'.server = r.server ∧ r'.stop = r.stop) ∧
    ((∃ f ∈ frames, ∃ m, f.message? = some m ∧ m.isStop = true) → ∀ tail,
      let r' := run fs s (stream frames ++ tail)
      r'.outputs = r.outputs ∧ r'.server = r.server ∧ r'.stop = r.stop) := by
  intro final r
  have hr := run_stream fs frames hs
  refine ⟨hr, ?_, ?_⟩
  · rintro before f after rfl hf
    have hm : (before ++ f :: after).filterMap Frame.message? =
        (before ++ after).filterMap Frame.message? := by
      simp [hf]
    obtain ⟨h1, h2, h3⟩ := run_stream fs (before ++ after) hs
    rw [← hm] at h1 h2 h3
    exact ⟨h1.trans hr.1.symm, h2.trans hr.2.1.symm, h3.trans hr.2.2.symm⟩
  · rintro ⟨f, hf, m, hm, hstop⟩ tail
    have he : final.1.stopped = true ∨ final.1.broken = true :=
      handleAll_stops fs s ⟨m, List.mem_filterMap.mpr ⟨f, hf, hm⟩, hstop⟩
    obtain ⟨os, -, ho⟩ := serve_stream fs frames hs
    obtain ⟨h1, h2, h3⟩ := ho tail
    obtain ⟨h1', h2', h3'⟩ := ho []
    rw [List.append_nil] at h1' h2' h3'
    rw [serve_ended he] at h1 h2 h3 h1' h2' h3'
    refine ⟨?_, h1.trans h1'.symm, h2.trans h2'.symm⟩
    simp only [r, run_eq_serve, Run.outputs_after, h3, h3']

/-- A body that spells nothing, an empty one behind another header, and a message that ends the run:
the first might as well not be there, and nothing that follows the last matters. -/
theorem run_three_frames :
    let fs : Files := ⟨[], []⟩
    let s := fresh [] [] .info true
    let empty : Frame := { Frame.ofBody [] (by decide) with
      before := [utf8 "Content-Type: text\r"]
      others_lines := by simp [Frame.ofBody, IsHeaderLine]; decide +kernel
      others_give_none := by simp [Frame.ofBody]; decide +kernel }
    let odd := Frame.ofBody (utf8 "\x7d") (by decide)
    let exit := Frame.ofBody (utf8 "\x7b\"method\":\"exit\"\x7d") (by decide)
    s.stopped = false ∧ (run fs s (stream [odd, empty, exit])).stop = .told ∧
      (run fs s (stream [empty, exit])).stop = .told ∧
      ∀ tail, (run fs s (stream [odd, empty, exit] ++ tail)).stop = .told := by
  intro fs s empty odd exit
  obtain ⟨_, hnone, htail⟩ := run_frames_eq_fold fs s rfl [odd, empty, exit]
  have hodd : odd.message? = none := by
    have : (Message.parse? (utf8 "\x7d")).isNone = true := by decide +kernel
    exact Option.isNone_iff_eq_none.mp this
  have hexit : ∃ m, exit.message? = some m ∧ m.isStop = true := by
    have : (Message.parse? (utf8 "\x7b\"method\":\"exit\"\x7d")).map Message.isStop = some true := by
      decide +kernel
    exact Option.map_eq_some_iff.mp this
  have htold : (run fs s (stream [odd, empty, exit])).stop = .told := by decide +kernel
  refine ⟨rfl, htold, ?_, fun tail => ?_⟩
  · exact (hnone [] odd [empty, exit] rfl hodd).2.2.trans htold
  · exact (htail ⟨exit, by simp, hexit⟩ tail).2.2.trans htold

end Server

end CallAssist
