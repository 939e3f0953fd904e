import CallAssist.Proofs.Server.Invariant
import CallAssist.Proofs.Server.Stream

/-! The two ways in which a run can come to a bad end, and no others: a header asks for a length that
no memory has, or the files of a workspace cannot be coped with. -/

namespace CallAssist

namespace Server

/-- From a server with the first stream before it to one with the second, frame by frame. -/
inductive Reaches (fs : Files) : Server → Bytes → Server → Bytes → Prop where
  | refl (s : Server) (t : Bytes) : Reaches fs s t s t
  | fault {s s' : Server} {t rest t' : Bytes} {e : FrameError} (hb : s.broken = false)
      (hs : s.stopped = false) (hr : readFrame t = .failed e rest) (h : Reaches fs s rest s' t') :
    Reaches fs s t s' t'
  | message {s s' : Server} {t rest t' : Bytes} {m : Message} (hb : s.broken = false)
      (hs : s.stopped = false) (hr : readFrame t = .message m rest)
      (h : Reaches fs (s.handle fs m).1 rest s' t') : Reaches fs s t s' t'

/-- A header that gives a length no body can have. -/
def AsksForTooMuch (t : Bytes) : Prop :=
  ∃ n rest, StartsWithHeader 0 t n rest ∧ (n < 0 ∨ maxLength < n)

def OpensBadWorkspace (fs : Files) (s : Server) (t : Bytes) : Prop :=
  ∃ m rest p, readFrame t = .message m rest ∧ m.kind = .enter ∧
    readInitialize m.params = some p ∧ BreaksDown fs s p

/-- A running server that does not survive what it reads next. -/
structure Doomed (fs : Files) (s : Server) (t : Bytes) : Prop where
  unbroken : s.broken = false
  running : s.stopped = false
  cause : AsksForTooMuch t ∨ OpensBadWorkspace fs s t

theorem asksForTooMuch_iff {t : Bytes} :
    AsksForTooMuch t ↔ ∃ rest, readFrame t = .crashed rest := by
  unfold readFrame
  constructor
  · rintro ⟨n, rest, hh, hn⟩
    have h0 : n ≠ 0 := by
      rw [maxLength] at hn
      omega
    have h1 : (decide (n < 0) || decide (maxLength < n)) = true := by simpa using hn
    simp only [readHeader_eq_length.mpr hh, if_neg h0, h1, if_true]
    exact ⟨rest, rfl⟩
  · rintro ⟨rest, h⟩
    split at h
    · cases h
    · cases h
    · next n rest' hr =>
      split_ifs at h with _ hn
      · exact ⟨n, rest', readHeader_eq_length.mp hr, by simpa using hn⟩
      · split at h
        · cases h
        · cases h

/-- A run ends as it would have begun from any point it reaches. -/
theorem Reaches.stop_eq {fs : Files} {s s' : Server} {t t' : Bytes} (h : Reaches fs s t s' t') :
    (serve fs s t).stop = (serve fs s' t').stop := by
  induction h with
  | refl => rfl
  | fault hb hs hr _ ih => rw [serve_failed hb hs fs hr, Run.stop_after, ih]
  | message hb hs hr _ ih => rw [serve_message hb hs fs hr, Run.stop_after, ih]

theorem Reaches.sound {fs : Files} {s s' : Server} {t t' : Bytes} (h : Reaches fs s t s' t')
    (hs : s.Sound) : s'.Sound := by
  induction h with
  | refl => exact hs
  | fault _ _ _ _ ih => exact ih hs
  | message _ _ _ _ ih => exact ih (hs.handle fs _)

theorem Doomed.crashes {fs : Files} {s : Server} {t : Bytes} (h : Doomed fs s t) :
    (serve fs s t).stop = .crashed := by
  rcases h.cause with hl | ⟨m, rest, p, hr, hk, hp, hw⟩
  · obtain ⟨rest, hr⟩ := asksForTooMuch_iff.mp hl
    rw [serve_crashed h.unbroken h.running fs hr]
  · have hb : (s.handle fs m).1.broken = true := (handle_broken fs s m).mpr (.inr ⟨hk, p, hp, hw⟩)
    rw [serve_message h.unbroken h.running fs hr, Run.stop_after, serve_broken hb]

/-- A run that crashes reaches a point where the server is doomed. -/
theorem exists_doomed {fs : Files} {s : Server} {t : Bytes} (hb : s.broken = false)
    (h : (serve fs s t).stop = .crashed) : ∃ s' t', Reaches fs s t s' t' ∧ Doomed fs s' t' := by
  -- a frame may be of any length, so the induction is on what is left of the stream
  induction hn : t.length using Nat.strong_induction_on generalizing s t with
  | _ n ih =>
    by_cases hs : s.stopped = true
    · rw [serve_stopped hb hs] at h
      cases h
    · rw [Bool.not_eq_true] at hs
      cases hr : readFrame t with
      | closed =>
        rw [serve_closed hb hs fs hr] at h
        cases h
      | crashed rest =>
        exact ⟨s, t, .refl s t, hb, hs, .inl (asksForTooMuch_iff.mpr ⟨rest, hr⟩)⟩
      | failed e rest =>
        have hlt := readFrame_failed_lt hr
        rw [serve_failed hb hs fs hr, Run.stop_after] at h
        obtain ⟨s', t', hreach, hd⟩ := ih rest.length (hn ▸ hlt) hb h rfl
        exact ⟨s', t', .fault hb hs hr hreach, hd⟩
      | message m rest =>
        have hlt := readFrame_message_lt hr
        rw [serve_message hb hs fs hr, Run.stop_after] at h
        by_cases hb' : (s.handle fs m).1.broken = true
        · have := ((handle_broken fs s m).mp hb').resolve_left (by simp [hb])
          obtain ⟨hk, p, hp, hw⟩ := this
          exact ⟨s, t, .refl s t, hb, hs, .inr ⟨m, rest, p, hr, hk, hp, hw⟩⟩
        · rw [Bool.not_eq_true] at hb'
          obtain ⟨s', t', hreach, hd⟩ := ih rest.length (hn ▸ hlt) hb' h rfl
          exact ⟨s', t', .message hb hs hr hreach, hd⟩

/-- A server crashes exactly where it comes to a header that asks for too much or to a workspace
that cannot be coped with. At every point it comes to, all it looks up by position is there. -/
theorem run_crashes_iff (fs : Files) (catalogPath version : Bytes) (level : Level)
    (adjustable : Bool) (input : Bytes) :
    let s₀ := fresh catalogPath version level adjustable
    ((run fs s₀ input).stop = .crashed ↔
      ∃ s t, Reaches fs s₀ input s t ∧ Doomed fs s t) ∧
    ∀ s t, Reaches fs s₀ input s t → s.InBounds := by
  intro s₀
  refine ⟨⟨fun h => exists_doomed rfl h, ?_⟩, ?_⟩
  · rintro ⟨s, t, hr, hd⟩
    exact hr.stop_eq.trans hd.crashes
  · intro s t hr
    exact (hr.sound (fresh_sound catalogPath version level adjustable)).inBounds

/-- A negative length ends the server. -/
theorem run_negative_length : (run ⟨[], []⟩ (fresh [] [] .info true)
    (utf8 "Content-Length: -1\r\n\r\n")).stop = .crashed := by
  decide +kernel

end Server

end CallAssist
