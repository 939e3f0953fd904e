import CallAssist.Command.Flag
import CallAssist.Proofs.Catalog.Index

/-! Reading a command line. Only flags that there are can have been given. -/

namespace CallAssist

namespace Command

def Parsed.Among (flags : List Flag) (p : Parsed) : Prop :=
  ∀ name ∈ p.values.map Prod.fst, name ∈ flags.map Flag.name

variable {flags : List Flag} {p p' : Parsed} {f : Flag} {value : Bytes} {rest rest' : List Bytes}

theorem Parsed.Among.set (hp : p.Among flags) (hf : f ∈ flags) (h : p.set f value = .ok p') :
    p'.Among flags := by
  obtain ⟨v, _, h⟩ := Catalog.exists_of_bind_ok h
  obtain rfl := Except.ok.inj h
  intro name hn
  rcases List.mem_cons.mp hn with rfl | hn
  · exact List.mem_map_of_mem hf
  · exact hp name hn

private theorem Parsed.Among.setFound {q : Flag → Bool} (hp : p.Among flags)
    (hf : flags.find? q = some f)
    (h : (do return (← p.set f value, rest)) = (.ok (p', rest') : Except FlagError _)) :
    p'.Among flags := by
  obtain ⟨q, hq, h⟩ := Catalog.exists_of_bind_ok h
  obtain rfl : q = p' := congrArg Prod.fst (Except.ok.inj h)
  exact hp.set (List.mem_of_find?_eq_some hf) hq

private theorem parseLong_among {arg : Bytes} (hp : p.Among flags)
    (h : parseLong flags p arg rest = .ok (p', rest')) : p'.Among flags := by
  unfold parseLong at h
  simp only at h
  split at h
  · cases h
  · split at h
    · cases h
    · split at h
      · cases h
      · next f hf =>
        split at h
        · exact hp.setFound hf h
        · split at h
          · exact hp.setFound hf h
          · split at h
            · exact hp.setFound hf h
            · cases h

private theorem parseLetters_among {letters : Bytes} (hp : p.Among flags)
    (h : parseLetters flags rest p letters = .ok (p', rest')) : p'.Among flags := by
  fun_induction parseLetters flags rest p letters with
  | case1 => cases h; exact hp
  | case2 => cases h; exact hp
  | case3 => cases h
  | case4 p c f hf => exact hp.setFound hf h
  | case5 p c f hf => exact hp.setFound hf h
  | case6 => cases h
  | case7 p c f hf => exact hp.setFound hf h
  | case8 => cases h
  | case9 p c f hf _ _ _ _ q hq _ ih => exact ih (hp.set (List.mem_of_find?_eq_some hf) hq) h
  | case10 p c f hf => exact hp.setFound hf h

private theorem parseFrom_among {fuel : Nat} {args : List Bytes} (hp : p.Among flags)
    (h : parseFrom flags fuel p args = .ok p') : p'.Among flags := by
  fun_induction parseFrom flags fuel p args with
  | case1 => cases h; exact hp
  | case2 => cases h; exact hp
  | case3 => cases h; exact hp
  | case4 _ p rest name _ e he =>
    rw [he] at h
    cases h
  | case5 _ p rest name _ q rest' hq ih =>
    rw [hq] at h
    exact ih (parseLong_among hp hq) h
  | case6 => cases h
  | case7 _ p rest c letters _ q rest' hq ih => exact ih (parseLetters_among hp hq) h
  | case8 _ p arg rest _ _ ih => exact ih hp h

/-- Reading a command line gives flags that there are. -/
theorem parseFlags_among {args : List Bytes} (h : parseFlags flags args = .ok p) :
    p.Among flags := by
  refine parseFrom_among ?_ h
  intro name hn
  cases hn

end Command

end CallAssist
