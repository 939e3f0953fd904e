import CallAssist.Proofs.Server.Breakdown
import CallAssist.Proofs.Server.Frames
import CallAssist.Proofs.Server.Opening

/-! The end of a run. Every frame that is read takes something from the stream, so a run comes to
an end: at the end of the stream, behind the message that tells the server to stop, or with one that
the server does not survive. -/

namespace CallAssist

namespace Server

def Run.left (r : Run) (all : Nat) : Nat := (r.turns.getLast?.map Turn.left).getD all

@[simp] theorem Run.left_after (t : Turn) (r : Run) (all : Nat) :
    (r.after t).left all = r.left t.left := by
  rw [Run.left, Run.after, List.getLast?_cons, Run.left]
  cases r.turns.getLast? with
  | none => rfl
  | some last => rfl

/-- A run over a stream of `all` bytes that is over with this server and this rest before it. -/
inductive Run.EndsAt (r : Run) (all : Nat) (s : Server) (rest : Bytes) : Prop where
  | disconnected (hstop : r.stop = .disconnected) (hclosed : readFrame rest = .closed)
      (hserver : r.server = s.closeSession.1) (hleft : r.left all = 0) : EndsAt r all s rest
  | told (hstop : r.stop = .told) (hs : s.stopped = true) (hserver : r.server = s)
      (hleft : r.left all = rest.length) : EndsAt r all s rest
  | crashed (hstop : r.stop = .crashed) (hb : s.broken = true) (hserver : r.server = s)
      (hleft : r.left all = rest.length) : EndsAt r all s rest

theorem Run.EndsAt.after {r : Run} {s : Server} {rest : Bytes} {t : Turn}
    (h : r.EndsAt t.left s rest) (all : Nat) : (r.after t).EndsAt all s rest := by
  have hleft := r.left_after t all
  cases h with
  | disconnected hstop hclosed hserver h =>
    exact .disconnected hstop hclosed hserver (hleft.trans h)
  | told hstop hs hserver h => exact .told hstop hs hserver (hleft.trans h)
  | crashed hstop hb hserver h => exact .crashed hstop hb hserver (hleft.trans h)

/-- A stream in which no header that the server comes to asks for too much. -/
def Affordable (fs : Files) (s : Server) (input : Bytes) : Prop :=
  ∀ s' t, Reaches fs s input s' t → s'.broken = false → s'.stopped = false → ¬ AsksForTooMuch t

def Visit.Overwhelmed (fs : Files) (v : Visit) : Prop :=
  v.message.method = utf8 "initialize" ∧
    ∃ p, readInitialize v.message.params = some p ∧ Overwhelms fs v.server p

theorem Visit.broken_iff (fs : Files) {v : Visit} (h : v.server.broken = false) :
    (v.step fs).1.broken = true ↔ v.Overwhelmed fs := by
  have hkind := kind_eq_iff (show (utf8 "initialize", Kind.enter) ∈ Kind.names by simp [Kind.names])
    v.message
  simp [step, handle_broken, h, hkind, breaksDown_iff, Overwhelmed]

/-- Where no header asks for too much, the stream is at its end or reading takes something
from it. -/
theorem readFrame_progress {t : Bytes} (h : ¬ AsksForTooMuch t) :
    readFrame t = .closed ∨
      ∃ taken rest, taken ≠ [] ∧ t = taken ++ rest ∧ (readFrame t).rest? = some rest := by
  cases hrest : (readFrame t).rest? with
  | some rest =>
    obtain ⟨taken, hne, ht⟩ := readFrame_takes hrest
    exact .inr ⟨taken, rest, hne, ht, rfl⟩
  | none =>
    cases hr : readFrame t with
    | closed => exact .inl rfl
    | crashed rest => exact absurd (asksForTooMuch_iff.mpr ⟨rest, hr⟩) h
    | failed e rest =>
      rw [hr] at hrest
      cases hrest
    | message m rest =>
      rw [hr] at hrest
      cases hrest

section Course

variable {fs : Files} {s : Server} {t : Bytes}

theorem Affordable.fault {rest : Bytes} {e : FrameError} (h : Affordable fs s t)
    (hb : s.broken = false) (hs : s.stopped = false) (hr : readFrame t = .failed e rest) :
    Affordable fs s rest :=
  fun s' t' hreach => h s' t' (.fault hb hs hr hreach)

theorem Affordable.message {rest : Bytes} {m : Message} (h : Affordable fs s t)
    (hb : s.broken = false) (hs : s.stopped = false) (hr : readFrame t = .message m rest) :
    Affordable fs (s.handle fs m).1 rest :=
  fun s' t' hreach => h s' t' (.message hb hs hr hreach)

theorem Affordable.not_crashed {rest : Bytes} (h : Affordable fs s t) (hb : s.broken = false)
    (hs : s.stopped = false) : readFrame t ≠ .crashed rest :=
  fun hr => h s t (.refl s t) hb hs (asksForTooMuch_iff.mpr ⟨rest, hr⟩)

/-- A run reaches the point at which it is over. -/
theorem Affordable.serve_endsAt (h : Affordable fs s t) :
    ∃ s' rest, Reaches fs s t s' rest ∧ (serve fs s t).EndsAt t.length s' rest := by
  fun_induction visits fs s t with
  | case1 s t hended =>
    refine ⟨s, t, .refl s t, ?_⟩
    by_cases hb : s.broken = true
    · rw [serve_broken hb]
      exact .crashed rfl hb rfl rfl
    · have hs : s.stopped = true := by simpa [hb] using hended
      rw [serve_stopped (by simpa using hb) hs]
      exact .told rfl hs rfl rfl
  | case2 s t hgoes hr =>
    obtain ⟨hb, hs⟩ := running hgoes
    rw [serve_closed hb hs fs hr]
    exact ⟨s, t, .refl s t, .disconnected rfl hr rfl rfl⟩
  | case3 s t hgoes rest hr =>
    obtain ⟨hb, hs⟩ := running hgoes
    exact absurd hr (h.not_crashed hb hs)
  | case4 s t hgoes e rest hr ih =>
    obtain ⟨hb, hs⟩ := running hgoes
    obtain ⟨s', rest', hreach, hends⟩ := ih (h.fault hb hs hr)
    rw [serve_failed hb hs fs hr]
    exact ⟨s', rest', .fault hb hs hr hreach, .after hends _⟩
  | case5 s t hgoes m rest hr ih =>
    obtain ⟨hb, hs⟩ := running hgoes
    obtain ⟨s', rest', hreach, hends⟩ := ih (h.message hb hs hr)
    rw [serve_message hb hs fs hr]
    exact ⟨s', rest', .message hb hs hr hreach, .after hends _⟩

/-- There are no more turns than bytes, but for the last one. -/
theorem length_turns_serve (fs : Files) (s : Server) (t : Bytes) :
    (serve fs s t).turns.length ≤ t.length + 1 := by
  fun_induction visits fs s t with
  | case1 s t hended =>
    rw [serve_ended (by simpa [or_comm] using hended)]
    exact Nat.zero_le _
  | case2 s t hgoes hr =>
    rw [serve_closed (running hgoes).1 (running hgoes).2 fs hr]
    exact Nat.le_add_left _ _
  | case3 s t hgoes rest hr =>
    rw [serve_crashed (running hgoes).1 (running hgoes).2 fs hr]
    exact Nat.le_add_left _ _
  | case4 s t hgoes e rest hr ih =>
    rw [serve_failed (running hgoes).1 (running hgoes).2 fs hr]
    exact Nat.succ_le_succ (ih.trans (readFrame_failed_lt hr))
  | case5 s t hgoes m rest hr ih =>
    rw [serve_message (running hgoes).1 (running hgoes).2 fs hr]
    exact Nat.succ_le_succ (ih.trans (readFrame_message_lt hr))

def ended (s : Server) : Option Stop :=
  if s.broken then some .crashed else if s.stopped then some .told else none

theorem ended_eq_none {s : Server} : s.ended = none ↔ s.broken = false ∧ s.stopped = false := by
  unfold ended
  cases s.broken with
  | true => simp
  | false => simp

/-- No message is taken up behind one that ends the run. -/
theorem visits_go_on {v : Visit} (h : v ∈ (visits fs s t).dropLast) :
    (v.step fs).1.ended = none := by
  fun_induction visits fs s t with
  | case1 => cases h
  | case2 => cases h
  | case3 => cases h
  | case4 s t _ e rest _ ih => exact ih h
  | case5 s t hgoes m rest hr ih =>
    by_cases hlast : visits fs (s.handle fs m).1 rest = []
    · rw [hlast] at h
      cases h
    · rw [List.dropLast_cons_of_ne_nil hlast] at h
      rcases List.mem_cons.mp h with rfl | h
      · have hlive := mt visits_ended hlast
        exact ended_eq_none.mpr (by simpa [Visit.step] using hlive)
      · exact ih h

/-- A run goes out with the first message that ends it, or when the stream is at its end. -/
theorem Affordable.stop_eq (h : Affordable fs s t) : (serve fs s t).stop =
    (s.ended.or ((visits fs s t).findSome? fun v => (v.step fs).1.ended)).getD .disconnected := by
  fun_induction visits fs s t with
  | case1 s t hended =>
    rw [Bool.or_comm, Bool.or_eq_true] at hended
    rw [serve_ended hended, ended]
    by_cases hb : s.broken = true
    · simp [hb]
    · simp [hb, hended.resolve_right hb]
  | case2 s t hgoes hr =>
    obtain ⟨hb, hs⟩ := running hgoes
    rw [serve_closed hb hs fs hr, ended_eq_none.mpr ⟨hb, hs⟩]
    rfl
  | case3 s t hgoes rest hr =>
    obtain ⟨hb, hs⟩ := running hgoes
    exact absurd hr (h.not_crashed hb hs)
  | case4 s t hgoes e rest hr ih =>
    obtain ⟨hb, hs⟩ := running hgoes
    rw [serve_failed hb hs fs hr, Run.stop_after, ih (h.fault hb hs hr)]
  | case5 s t hgoes m rest hr ih =>
    obtain ⟨hb, hs⟩ := running hgoes
    rw [serve_message hb hs fs hr, Run.stop_after, ih (h.message hb hs hr),
      ended_eq_none.mpr ⟨hb, hs⟩, Option.none_or, List.findSome?_cons, Visit.step]
    cases (s.handle fs m).1.ended with
    | none => rfl
    | some stop => rfl

/-- The message that ends a run is one that was taken up. -/
theorem Affordable.stop_eq_iff (h : Affordable fs s t) (hb : s.broken = false)
    (hs : s.stopped = false) {stop : Stop} (hstop : stop ≠ .disconnected) :
    (serve fs s t).stop = stop ↔ ∃ v ∈ visits fs s t, (v.step fs).1.ended = some stop := by
  rw [h.stop_eq, ended_eq_none.mpr ⟨hb, hs⟩, Option.none_or]
  rcases List.eq_nil_or_concat (visits fs s t) with hnil | ⟨before, v, hv⟩
  · simp [hnil, hstop.symm]
  · rw [List.concat_eq_append] at hv
    have hgo : ∀ u ∈ before, (u.step fs).1.ended = none := by
      intro u hu
      have hmem : u ∈ (visits fs s t).dropLast := by rwa [hv, List.dropLast_concat]
      exact visits_go_on hmem
    rw [hv, List.findSome?_append, List.findSome?_eq_none_iff.mpr hgo,
      Option.none_or, List.findSome?_singleton]
    constructor
    · intro hlast
      cases hended : (v.step fs).1.ended with
      | none =>
        rw [hended] at hlast
        exact absurd hlast.symm hstop
      | some stop' =>
        rw [hended] at hlast
        exact ⟨v, by simp, hended.trans (congrArg some hlast)⟩
    · rintro ⟨u, hu, hended⟩
      rcases List.mem_append.mp hu with hu | hu
      · rw [hgo u hu] at hended
        cases hended
      · obtain rfl := List.mem_singleton.mp hu
        rw [hended, Option.getD_some]

end Course

/-- A message that is taken up ends the run if it tells the server to stop, or if the server does
not survive it. -/
theorem Visit.ended_step (fs : Files) {v : Visit} (hb : v.server.broken = false)
    (hs : v.server.stopped = false) :
    ((v.step fs).1.ended = some .told ↔ v.message.isStop = true) ∧
      ((v.step fs).1.ended = some .crashed ↔ v.Overwhelmed fs) := by
  have hbroken := Visit.broken_iff fs hb
  have hstopped : (v.step fs).1.stopped = v.message.isStop := by
    rw [step, handle_stopped, hs, Bool.false_or]
  rw [← hbroken, ended, hstopped]
  by_cases h : (v.step fs).1.broken = true
  · have hgoes : v.message.isStop = false := by
      rw [Message.isStop, (hbroken.mp h).1]
      decide
    simp [h, hgoes]
  · simp [h]

/-- A frame that is read does not ask for too much; it remains to look at what follows it. -/
theorem affordable_of_rest {fs : Files} {t rest : Bytes} (hr : (readFrame t).rest? = some rest)
    (h : ∀ s, Affordable fs s rest) (s : Server) : Affordable fs s t := by
  intro s' t' hreach hb hs hasks
  cases hreach with
  | refl =>
    obtain ⟨more, hcrashed⟩ := asksForTooMuch_iff.mp hasks
    rw [hcrashed] at hr
    cases hr
  | fault _ _ hread hreach =>
    rw [hread] at hr
    obtain rfl := Option.some.inj hr
    exact h _ s' t' hreach hb hs hasks
  | message _ _ hread hreach =>
    rw [hread] at hr
    obtain rfl := Option.some.inj hr
    exact h _ s' t' hreach hb hs hasks

theorem affordable_of_closed {fs : Files} {t : Bytes} (hr : readFrame t = .closed) (s : Server) :
    Affordable fs s t := by
  intro s' t' hreach _ _ hasks
  cases hreach with
  | refl =>
    obtain ⟨more, hcrashed⟩ := asksForTooMuch_iff.mp hasks
    rw [hr] at hcrashed
    cases hcrashed
  | fault _ _ hread =>
    rw [hr] at hread
    cases hread
  | message _ _ hread =>
    rw [hr] at hread
    cases hread

/-- Frames ask for no more than they bring. -/
theorem affordable_stream (fs : Files) (s : Server) (frames : List Frame) :
    Affordable fs s (stream frames) := by
  induction frames generalizing s with
  | nil => exact affordable_of_closed readFrame_nil s
  | cons f frames ih =>
    have hstream : stream (f :: frames) = f.bytes ++ stream frames := List.flatMap_cons
    refine affordable_of_rest ?_ ih s
    rw [hstream, f.readFrame_bytes]
    cases f.message? with
    | none => rfl
    | some m => rfl

/-- A run over a stream in which no header asks for too much comes to an end. Each reading takes
something from the stream or finds it at its end, so that there are no more turns than bytes, but
for the first and the last. The run is over behind the first message that tells the server to stop,
or else when all has been read; the one exception is a message that opens a workspace whose files
the server does not survive. -/
theorem run_ends (fs : Files) {s : Server} (hb : s.broken = false) (hs : s.stopped = false)
    {input : Bytes} (hfits : Affordable fs s input) :
    let r := run fs s input
    let messages := visits fs s input
    (∀ s' t, Reaches fs s input s' t → s'.broken = false → s'.stopped = false →
      readFrame t = .closed ∨
        ∃ taken rest, taken ≠ [] ∧ t = taken ++ rest ∧ (readFrame t).rest? = some rest) ∧
    r.turns.length ≤ input.length + 2 ∧
    (∃ s' rest, Reaches fs s input s' rest ∧ r.EndsAt input.length s' rest) ∧
    (r.stop = .told ↔ ∃ v ∈ messages, v.message.isStop = true) ∧
    (r.stop = .crashed ↔ ∃ v ∈ messages, v.Overwhelmed fs) ∧
    ∀ v ∈ messages.dropLast, v.message.isStop = false ∧ ¬ v.Overwhelmed fs := by
  intro r messages
  have hended {v : Visit} (hv : v ∈ messages) :=
    Visit.ended_step fs (mem_visits hv).1 (mem_visits hv).2.1
  refine ⟨?_, ?_, ?_, ?_, ?_, ?_⟩
  · intro s' t hreach hb' hs'
    exact readFrame_progress (hfits s' t hreach hb' hs')
  · exact Nat.succ_le_succ (length_turns_serve fs s input)
  · obtain ⟨s', rest, hreach, hends⟩ := hfits.serve_endsAt
    exact ⟨s', rest, hreach, hends.after _⟩
  · refine (hfits.stop_eq_iff hb hs (by decide)).trans (exists_congr fun v => ?_)
    exact and_congr_right fun hv => (hended hv).1
  · refine (hfits.stop_eq_iff hb hs (by decide)).trans (exists_congr fun v => ?_)
    exact and_congr_right fun hv => (hended hv).2
  · intro v hv
    obtain ⟨htold, hcrashed⟩ := hended (List.mem_of_mem_dropLast hv)
    rw [visits_go_on hv] at htold hcrashed
    simpa using And.intro htold hcrashed

/-- A length that is none, a header without one, a body that spells nothing and a body that is cut
off: the run goes on to the end of the stream. -/
theorem run_ends_cut_off :
    let fs : Files := ⟨[], []⟩
    let s := fresh [] [] .info true
    let input := utf8 ("Content-Length: x\r\n\r\nContent-Length: 1\r\n\r\n\x7d" ++
      "Content-Length: 9\r\n\r\nab")
    Affordable fs s input ∧ (run fs s input).stop = .disconnected ∧
      (run fs s input).left input.length = 0 ∧ (run fs s input).turns.length ≤ input.length + 2 ∧
      ∀ v ∈ visits fs s input, v.message.isStop = false := by
  intro fs s input
  have hnone : ∀ s, Affordable fs s [] := affordable_of_closed readFrame_nil
  have hcut : ∀ s, Affordable fs s (utf8 "Content-Length: 9\r\n\r\nab") :=
    affordable_of_rest (by decide +kernel) hnone
  have hbody : ∀ s, Affordable fs s
      (utf8 "Content-Length: 1\r\n\r\n\x7dContent-Length: 9\r\n\r\nab") :=
    affordable_of_rest (by decide +kernel) hcut
  have hblank : ∀ s, Affordable fs s
      (utf8 "\r\nContent-Length: 1\r\n\r\n\x7dContent-Length: 9\r\n\r\nab") :=
    affordable_of_rest (by decide +kernel) hbody
  have hfits : Affordable fs s input := affordable_of_rest (by decide +kernel) hblank s
  obtain ⟨_, hturns, ⟨_, _, _, hends⟩, htold, _⟩ := run_ends fs (rfl : s.broken = false) rfl hfits
  have hstop : (run fs s input).stop = .disconnected := by decide +kernel
  refine ⟨hfits, hstop, ?_, hturns, ?_⟩
  · cases hends with
    | disconnected _ _ _ hleft => exact hleft
    | told h => cases hstop.symm.trans h
    | crashed h => cases hstop.symm.trans h
  · intro v hv
    rw [Bool.eq_false_iff]
    intro hstops
    cases hstop.symm.trans (htold.mpr ⟨v, hv, hstops⟩)

/-- A catalogue that should be refused ends the run in the middle of a stream that asks for
nothing unusual. -/
theorem run_unfinished :
    let fs : Files := ⟨[], [([utf8 "c.yaml"], .file
      (utf8 "- \x7bname: f, params: [], description: d, [a]: x, <<: \x7b\x7d\x7d\n"))]⟩
    let s := fresh (utf8 "/c.yaml") [] .info true
    let opening := Frame.ofBody
      (utf8 "\x7b\"id\":1,\"method\":\"initialize\",\"params\":\x7b\x7d\x7d") (by decide +kernel)
    let exit := Frame.ofBody (utf8 "\x7b\"method\":\"exit\"\x7d") (by decide)
    Affordable fs s (stream [opening, exit]) ∧
      (run fs s (stream [opening, exit])).stop = .crashed := by
  intro fs s opening exit
  exact ⟨affordable_stream fs s _, by decide +kernel⟩

end Server

end CallAssist
