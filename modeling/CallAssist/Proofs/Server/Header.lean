import CallAssist.Proofs.Text.Cuts
import CallAssist.Server.Frame

/-! The header of a frame, described by its lines: each is no blank, the last length given is the
one that counts, and the first blank line ends it. -/

namespace CallAssist

namespace Server

/-- A line that belongs to a header, without its line end. -/
def IsHeaderLine (line : Bytes) : Prop := 0x0A ∉ line ∧ Bytes.trim line ≠ []

def IsBlankLine (line : Bytes) : Prop := 0x0A ∉ line ∧ Bytes.trim line = []

def lineText (lines : List Bytes) : Bytes := lines.flatMap (· ++ [0x0A])

@[simp] theorem lineText_nil : lineText [] = [] := rfl

@[simp] theorem lineText_cons (line : Bytes) (lines : List Bytes) :
    lineText (line :: lines) = line ++ 0x0A :: lineText lines := by
  simp [lineText]

def lengthAfter (n : Int) (line : Bytes) : Option Int :=
  match Bytes.dropFront? lengthHeader (Bytes.trim line) with
  | none => some n
  | some digits => (Integer.decimal digits).toOption

/-- A stream that starts with a header: the length it gives and what follows it. -/
def StartsWithHeader (n₀ : Int) (t : Bytes) (n : Int) (rest : Bytes) : Prop :=
  ∃ lines blank, t = lineText lines ++ blank ++ 0x0A :: rest ∧
    (∀ line ∈ lines, IsHeaderLine line) ∧ IsBlankLine blank ∧
    lines.foldlM lengthAfter n₀ = some n

theorem readHeader_blank {line : Bytes} (h : IsBlankLine line) (fuel : Nat) (n : Int)
    (rest : Bytes) : readHeader (fuel + 1) n (line ++ 0x0A :: rest) = .length n rest := by
  simp [readHeader, Bytes.cut_append h.1, h.2]

theorem readHeader_line {line : Bytes} {n n' : Int} (h : IsHeaderLine line)
    (hn : lengthAfter n line = some n') (fuel : Nat) (rest : Bytes) :
    readHeader (fuel + 1) n (line ++ 0x0A :: rest) = readHeader fuel n' rest := by
  have hne : ¬ (Bytes.trim line).isEmpty = true := by simpa using h.2
  rw [lengthAfter] at hn
  simp only [readHeader, Bytes.cut_append h.1, if_neg hne]
  cases hd : Bytes.dropFront? lengthHeader (Bytes.trim line) with
  | none =>
    rw [hd] at hn
    rw [Option.some.inj hn]
  | some digits =>
    cases hi : Integer.decimal digits with
    | error f => simp [hd, hi, Except.toOption] at hn
    | ok k =>
      simp only [hd, hi] at hn ⊢
      rw [Option.some.inj hn]

private theorem readHeader_lines {lines : List Bytes} {n n' : Int}
    (h : ∀ line ∈ lines, IsHeaderLine line) (hn : lines.foldlM lengthAfter n = some n')
    (fuel : Nat) (t : Bytes) :
    readHeader (lines.length + fuel) n (lineText lines ++ t) = readHeader fuel n' t := by
  induction lines generalizing n with
  | nil =>
    obtain rfl := Option.some.inj hn
    simp
  | cons line lines ih =>
    rw [List.foldlM_cons] at hn
    obtain ⟨k, hk, hn⟩ := Option.bind_eq_some_iff.mp hn
    have hl : IsHeaderLine line := h line List.mem_cons_self
    rw [lineText_cons, List.append_assoc, List.cons_append, List.length_cons, Nat.succ_add,
      readHeader_line hl hk]
    exact ih (fun l hm => h l (List.mem_cons_of_mem _ hm)) hn

private theorem length_le_lineText (lines : List Bytes) :
    lines.length ≤ (lineText lines).length := by
  induction lines with
  | nil => simp
  | cons line lines ih =>
    simp only [lineText_cons, List.length_append, List.length_cons]
    omega

/-- What a header line comes to when it is read: the end of the header, a length that cannot be
read, or the length that holds from there on. -/
theorem readHeader_cases (fuel : Nat) (n : Int) (t : Bytes) :
    (0x0A ∉ t ∧ readHeader (fuel + 1) n t = .cut) ∨
    ∃ line rest, t = line ++ 0x0A :: rest ∧
      ((IsBlankLine line ∧ readHeader (fuel + 1) n t = .length n rest) ∨
      (IsHeaderLine line ∧ lengthAfter n line = none ∧
        ∃ digits f, readHeader (fuel + 1) n t = .bad digits f rest) ∨
      ∃ n', IsHeaderLine line ∧ lengthAfter n line = some n' ∧
        readHeader (fuel + 1) n t = readHeader fuel n' rest) := by
  cases hc : Bytes.cut 0x0A t with
  | none =>
    refine .inl ⟨fun hm => ?_, by simp [readHeader, hc]⟩
    obtain ⟨as, bs, rfl, ha⟩ := List.eq_append_cons_of_mem hm
    rw [Bytes.cut_append ha] at hc
    cases hc
  | some p =>
    obtain ⟨line, rest⟩ := p
    obtain ⟨rfl, hl⟩ := Bytes.cut_eq_some hc
    refine .inr ⟨line, rest, rfl, ?_⟩
    by_cases ht : Bytes.trim line = []
    · exact .inl ⟨⟨hl, ht⟩, readHeader_blank ⟨hl, ht⟩ fuel n rest⟩
    · cases hn : lengthAfter n line with
      | some n' => exact .inr (.inr ⟨n', ⟨hl, ht⟩, rfl, readHeader_line ⟨hl, ht⟩ hn fuel rest⟩)
      | none =>
        refine .inr (.inl ⟨⟨hl, ht⟩, rfl, ?_⟩)
        have hne : ¬ (Bytes.trim line).isEmpty = true := by simpa using ht
        simp only [readHeader, hc, if_neg hne]
        rw [lengthAfter] at hn
        cases hd : Bytes.dropFront? lengthHeader (Bytes.trim line) with
        | none =>
          rw [hd] at hn
          cases hn
        | some digits =>
          cases hi : Integer.decimal digits with
          | error f => exact ⟨digits, f, by simp only [hi]⟩
          | ok k => simp [hd, hi, Except.toOption] at hn

/-- Reading finds a header where there is one and nowhere else. -/
theorem readHeader_eq_length {n₀ n : Int} {t rest : Bytes} :
    readHeader (t.length + 1) n₀ t = .length n rest ↔ StartsWithHeader n₀ t n rest := by
  have inverse (fuel : Nat) : ∀ n₀ t, readHeader fuel n₀ t = .length n rest →
      StartsWithHeader n₀ t n rest := by
    induction fuel with
    | zero => exact fun _ _ h => by cases h
    | succ fuel ih =>
      intro n₀ t h
      rcases readHeader_cases fuel n₀ t with ⟨_, hr⟩ | ⟨line, rest', rfl, ⟨hl, hr⟩ |
        ⟨_, _, _, _, hr⟩ | ⟨n', hl, hn, hr⟩⟩
      · rw [hr] at h
        cases h
      · rw [hr] at h
        obtain ⟨rfl, rfl⟩ := Header.length.inj h
        exact ⟨[], line, by simp, by simp, hl, rfl⟩
      · rw [hr] at h
        cases h
      · rw [hr] at h
        obtain ⟨lines, blank, rfl, hls, hb, hf⟩ := ih n' rest' h
        refine ⟨line :: lines, blank, by simp, ?_, hb, ?_⟩
        · exact List.forall_mem_cons.mpr ⟨hl, hls⟩
        · rw [List.foldlM_cons, hn]
          exact hf
  refine ⟨inverse _ _ _, ?_⟩
  rintro ⟨lines, blank, rfl, hls, hb, hf⟩
  have hlen := length_le_lineText lines
  obtain ⟨k, hk⟩ : ∃ k, (lineText lines ++ blank ++ 0x0A :: rest).length + 1 =
      lines.length + (k + 1) :=
    ⟨(lineText lines ++ blank ++ 0x0A :: rest).length - lines.length, by simp; omega⟩
  rw [hk, List.append_assoc, readHeader_lines hls hf, readHeader_blank hb]

/-- A length that cannot be read stands in a line that was read to its end. -/
theorem readHeader_bad_split {fuel : Nat} {n : Int} {t digits rest : Bytes} {f : Integer.Fault}
    (h : readHeader fuel n t = .bad digits f rest) : ∃ taken, t = taken ++ 0x0A :: rest := by
  induction fuel generalizing n t with
  | zero => cases h
  | succ fuel ih =>
    rcases readHeader_cases fuel n t with ⟨_, hr⟩ | ⟨line, rest', rfl, ⟨hl, hr⟩ |
      ⟨_, _, _, _, hr⟩ | ⟨n', _, _, hr⟩⟩
    · rw [hr] at h
      cases h
    · rw [hr] at h
      cases h
    · rw [hr] at h
      obtain ⟨_, _, rfl⟩ := Header.bad.inj h
      exact ⟨line, rfl⟩
    · rw [hr] at h
      obtain ⟨taken, rfl⟩ := ih h
      exact ⟨line ++ 0x0A :: taken, by simp⟩

theorem StartsWithHeader.split {n₀ n : Int} {t rest : Bytes} (h : StartsWithHeader n₀ t n rest) :
    ∃ taken, t = taken ++ 0x0A :: rest := by
  obtain ⟨lines, blank, rfl, _⟩ := h
  exact ⟨_, rfl⟩

def Reading.rest? : Reading → Option Bytes
  | .message _ rest => some rest
  | .failed _ rest => some rest
  | .closed => none
  | .crashed _ => none

/-- Reading goes on behind something that was taken from the stream. -/
theorem readFrame_takes {t rest : Bytes} (h : (readFrame t).rest? = some rest) :
    ∃ taken, taken ≠ [] ∧ t = taken ++ rest := by
  have hline {taken more : Bytes} : taken ++ 0x0A :: more ≠ [] := by simp
  unfold readFrame at h
  split at h
  · cases h
  · next hr =>
    obtain rfl := Option.some.inj h
    obtain ⟨taken, rfl⟩ := readHeader_bad_split hr
    exact ⟨taken ++ [0x0A], hline, by simp⟩
  · next n body hr =>
    obtain ⟨taken, rfl⟩ := (readHeader_eq_length.mp hr).split
    have hbody : ∃ all, all ≠ [] ∧
        taken ++ 0x0A :: body = all ++ body.drop n.toNat :=
      ⟨taken ++ 0x0A :: body.take n.toNat, hline, by simp⟩
    split_ifs at h
    · obtain rfl := Option.some.inj h
      exact ⟨taken ++ [0x0A], hline, by simp⟩
    · cases h
    · cases h
    · obtain rfl := Option.some.inj h
      exact ⟨taken ++ 0x0A :: body, hline, by simp⟩
    · split at h
      · obtain rfl := Option.some.inj h
        exact hbody
      · obtain rfl := Option.some.inj h
        exact hbody

private theorem readFrame_rest_lt {t rest : Bytes} (h : (readFrame t).rest? = some rest) :
    rest.length < t.length := by
  obtain ⟨taken, hne, rfl⟩ := readFrame_takes h
  have := List.length_pos_iff.mpr hne
  rw [List.length_append]
  omega

/-- A faulty frame takes something from the stream. -/
theorem readFrame_failed_lt {t rest : Bytes} {e : FrameError} (h : readFrame t = .failed e rest) :
    rest.length < t.length :=
  readFrame_rest_lt (by rw [h]; rfl)

/-- So does a frame with a message in it. -/
theorem readFrame_message_lt {t rest : Bytes} {m : Message} (h : readFrame t = .message m rest) :
    rest.length < t.length :=
  readFrame_rest_lt (by rw [h]; rfl)

end Server

end CallAssist
