import CallAssist.Command.Program
import CallAssist.Proofs.Command.Flags
import CallAssist.Proofs.Text.Cuts
import CallAssist.Proofs.Text.Fold
import CallAssist.Settings.Basic
import Mathlib.Data.List.Nodup

/-! Where the value of a setting comes from. The layers are searched from the flags down to the
built-in values, and what is found there is what the command line, the environment and the file
say. -/

namespace CallAssist

open Command (Parsed FlagValue Flag)

namespace Settings

/-- The settings that are looked up in the layers. The last one is not used, but its value must be
a text. -/
inductive Item where
  | catalogPath
  | logLevel
  | logFile
  | verbose
  | output
  | unused
  deriving DecidableEq, Repr

namespace Item

def key : Item → Bytes
  | catalogPath => utf8 "catalog_path"
  | logLevel => utf8 "log_level"
  | logFile => utf8 "log_file"
  | verbose => utf8 "verbose"
  | output => utf8 "output"
  | unused => utf8 "-"

def flag : Item → Bytes
  | catalogPath => utf8 "catalog"
  | logLevel => utf8 "log-level"
  | logFile => utf8 "log-file"
  | verbose => utf8 "verbose"
  | output => utf8 "output"
  | unused => utf8 "-"

def builtin : Item → Yaml.Value
  | catalogPath => .atom (.text (utf8 "data/nvgt_functions.json"))
  | logLevel => .atom (.text (utf8 "info"))
  | logFile => .atom (.text [])
  | verbose => .atom (.bool false)
  | output => .atom (.text (utf8 "auto"))
  | unused => .atom (.text [])

theorem lookup_builtin {k : Item} (h : k ≠ unused) :
    Settings.builtin.lookup k.key = some k.builtin := by
  cases k with
  | catalogPath => rfl
  | logLevel => rfl
  | logFile => rfl
  | verbose => rfl
  | output => rfl
  | unused => exact absurd rfl h

theorem key_plain (k : Item) : k.key ≠ [] ∧ 0x2E ∉ k.key := by
  cases k <;> decide

end Item

section Flags

def flagValue : FlagValue → Yaml.Value
  | .text t => .atom (.text t)
  | .bool b => .atom (.bool b)
  | .int n => .atom (.int n)

def flagKey (name : Bytes) : Bytes :=
  let key := Bytes.replace 0x2D [0x5F] name
  if key == utf8 "catalog" then utf8 "catalog_path" else key

def OneFlagEach (names : List Bytes) : Prop :=
  ∀ name ∈ names, ∀ k : Item, flagKey name = k.key ↔ name = k.flag

def FromCommandLine (flags : Option Parsed) : Prop :=
  ∀ p ∈ flags, ∃ declared args,
    (declared = Command.commonFlags ∨ ∃ c, declared = Program.full.allFlags c) ∧
      Command.parseFlags declared args = .ok p

private def flagNames : List Bytes :=
  Command.commonFlags.map Flag.name ++ ["prefix", "watch", "jobs", "line", "col", "interactive",
    "no-descriptions", "help", "version"].map utf8

private theorem oneFlagEach_flagNames : OneFlagEach flagNames := by
  intro name hn k
  revert name
  cases k <;> decide +kernel

private theorem localFlags_subset (c : Command) :
    (Program.localFlags c).map Flag.name ⊆ flagNames := by
  cases c <;> simp [Program.localFlags, Program.helpFlag, Program.versionFlag, Command.ownFlags,
    Flag.make, flagNames]

private theorem allFlags_subset (c : Command) :
    (Program.full.allFlags c).map Flag.name ⊆ flagNames := by
  rw [Program.allFlags, List.map_append]
  exact List.append_subset.mpr ⟨localFlags_subset c, List.subset_append_left _ _⟩

theorem FromCommandLine.oneFlagEach {flags : Option Parsed} (h : FromCommandLine flags) :
    ∀ p ∈ flags, OneFlagEach (p.values.map Prod.fst) := by
  intro p hp name hn
  obtain ⟨declared, args, hd, hparse⟩ := h p hp
  have hname : name ∈ declared.map Flag.name := Command.parseFlags_among hparse name hn
  apply oneFlagEach_flagNames
  rcases hd with rfl | ⟨c, rfl⟩
  · exact List.mem_append_left _ hname
  · exact allFlags_subset c hname

theorem lookup_ofFlags {p : Parsed} (h : OneFlagEach (p.values.map Prod.fst)) (k : Item) :
    (ofFlags p).lookup k.key = (p.values.lookup k.flag).map flagValue := by
  change (p.values.map fun e => (flagKey e.1, flagValue e.2)).lookup k.key = _
  revert h
  induction p.values with
  | nil => exact fun _ => rfl
  | cons e es ih =>
    intro h
    obtain ⟨he, hes⟩ := List.forall_mem_cons.mp h
    rw [List.map_cons, List.lookup_cons, List.lookup_cons, ih hes]
    by_cases hk : e.1 = k.flag
    · rw [beq_iff_eq.mpr ((he k).mpr hk).symm, beq_iff_eq.mpr hk.symm, Option.map_some]
    · have hk' : flagKey e.1 ≠ k.key := fun h' => hk ((he k).mp h')
      rw [beq_eq_false_iff_ne.mpr hk'.symm, beq_eq_false_iff_ne.mpr (Ne.symm hk)]

end Flags

section Environment

def variableKey? (name : Bytes) : Option Bytes :=
  (Bytes.dropFront? variableFront name).map Bytes.lowerName

def named (env : List (Bytes × Bytes)) : List (Bytes × Bytes) :=
  env.filterMap fun e => (variableKey? e.1).map fun key => (key, e.2)

/-- A variable for a setting: the common front and the key, which may be in any letter case. -/
def IsVariable (k : Item) (name : Bytes) : Prop :=
  ∃ rest, name = variableFront ++ rest ∧ Bytes.lowerName rest = k.key

theorem isVariable_iff {k : Item} {name : Bytes} :
    IsVariable k name ↔ variableKey? name = some k.key := by
  rw [variableKey?, Option.map_eq_some_iff]
  constructor
  · rintro ⟨rest, rfl, hk⟩
    exact ⟨rest, Bytes.dropFront?_append _ _, hk⟩
  · rintro ⟨rest, hr, hk⟩
    exact ⟨rest, Bytes.dropFront?_eq_some.mp hr, hk⟩

/-- Variables whose names have no point in them and differ in more than letter case. -/
structure PlainNames (env : List (Bytes × Bytes)) : Prop where
  no_point : ∀ e ∈ env, variableFront <+: e.1 → 0x2E ∉ e.1
  distinct : (env.filterMap fun e => variableKey? e.1).Nodup

variable {env : List (Bytes × Bytes)}

theorem mem_named {key value : Bytes} :
    (key, value) ∈ named env ↔ ∃ e ∈ env, variableKey? e.1 = some key ∧ e.2 = value := by
  simp [named, List.mem_filterMap]

theorem map_fst_named : (named env).map Prod.fst = env.filterMap fun e => variableKey? e.1 := by
  rw [named, List.map_filterMap]
  congr 1
  funext e
  cases variableKey? e.1 <;> rfl

theorem PlainNames.key_no_point (h : PlainNames env) {key : Bytes}
    (hk : key ∈ (named env).map Prod.fst) : 0x2E ∉ key := by
  rw [map_fst_named] at hk
  obtain ⟨e, he, hk⟩ := List.mem_filterMap.mp hk
  obtain ⟨rest, hr, rfl⟩ := Option.map_eq_some_iff.mp hk
  have hname := Bytes.dropFront?_eq_some.mp hr
  apply Bytes.dot_not_mem_lowerName
  intro hd
  refine h.no_point e he ⟨rest, hname.symm⟩ ?_
  rw [hname]
  exact List.mem_append_right _ hd

private theorem lookup_eq_some_iff_mem {α : Type} {l : List (Bytes × α)} {key : Bytes} {v : α}
    (h : (l.map Prod.fst).Nodup) : l.lookup key = some v ↔ (key, v) ∈ l := by
  rw [List.lookup_eq_some_iff]
  constructor
  · rintro ⟨l₁, l₂, rfl, _⟩
    simp
  · intro hm
    obtain ⟨l₁, l₂, rfl⟩ := List.append_of_mem hm
    refine ⟨l₁, l₂, rfl, ?_⟩
    intro e he
    rw [List.map_append, List.map_cons, List.nodup_append] at h
    have hne := h.2.2 e.1 (List.mem_map_of_mem he) key List.mem_cons_self
    simpa using Ne.symm hne

private def isPlain (e : Bytes × Bytes) : Bool := !(e.1.isEmpty || e.1.contains 0x2E)

private theorem filterMap_plain (es : List (Bytes × Bytes)) :
    (es.filterMap fun e => if e.1.isEmpty || e.1.contains 0x2E then none
      else some (e.1, Yaml.Value.atom (.text e.2))) =
    (es.filter isPlain).map fun e => (e.1, .atom (.text e.2)) := by
  induction es with
  | nil => rfl
  | cons e es ih =>
    rw [List.filterMap_cons, List.filter_cons, ih, isPlain]
    cases e.1.isEmpty || e.1.contains 0x2E <;> rfl

private theorem ofEnvironment_eq (h : PlainNames env) : ofEnvironment env =
    ((named env).reverse.filter isPlain).map fun e => (e.1, .atom (.text e.2)) := by
  have hnamed : (env.filterMap fun e => (Bytes.dropFront? variableFront e.1).map fun rest =>
      (Bytes.lowerName rest, e.2)) = named env := by
    rw [named]
    congr 1
    funext e
    rw [variableKey?, Option.map_map]
    rfl
  have hnested : ((named env).filterMap fun e => (Bytes.cut 0x2E e.1).map fun cut =>
      (cut.1, Yaml.Value.map [])) = [] := by
    rw [List.filterMap_eq_nil_iff]
    intro e he
    rw [Bytes.cut_eq_none (h.key_no_point (List.mem_map_of_mem he)), Option.map_none]
  rw [← filterMap_plain, ← List.append_nil (List.filterMap _ _), ← hnested, ← hnamed]
  rfl

/-- The layer of the environment has the variables under their keys. -/
theorem lookup_ofEnvironment (h : PlainNames env) (k : Item) (v : Yaml.Value) :
    (ofEnvironment env).lookup k.key = some v ↔
      ∃ e ∈ env, IsVariable k e.1 ∧ v = .atom (.text e.2) := by
  have hkeys : (((named env).reverse.filter isPlain).map
      fun e => (e.1, Yaml.Value.atom (.text e.2))).map Prod.fst |>.Nodup := by
    rw [List.map_map]
    have hall : ((named env).reverse.map Prod.fst).Nodup := by
      rw [List.map_reverse, List.nodup_reverse, map_fst_named]
      exact h.distinct
    exact hall.sublist (List.filter_sublist.map _)
  rw [ofEnvironment_eq h, lookup_eq_some_iff_mem hkeys, List.mem_map]
  constructor
  · rintro ⟨⟨key, value⟩, hmem, heq⟩
    obtain ⟨rfl, rfl⟩ := Prod.mk.inj heq
    obtain ⟨e, he, hkey, rfl⟩ := mem_named.mp (List.mem_reverse.mp (List.mem_of_mem_filter hmem))
    exact ⟨e, he, isVariable_iff.mpr hkey, rfl⟩
  · rintro ⟨e, he, hv, rfl⟩
    have hmem := mem_named.mpr ⟨e, he, isVariable_iff.mp hv, rfl⟩
    have hplain : isPlain (k.key, e.2) = true := by simpa [isPlain] using k.key_plain
    exact ⟨(k.key, e.2), List.mem_filter.mpr ⟨List.mem_reverse.mpr hmem, hplain⟩, rfl⟩

end Environment

section Layers

def givenFlag? (flags : Option Parsed) (k : Item) : Option FlagValue :=
  flags.bind fun p => p.values.lookup k.flag

/-- The value that counts for a setting: that of its flag, be it empty or false, else that of its
variable, else that of exactly its key in the file, else the built-in one. -/
inductive Chosen (flags : Option Parsed) (env : List (Bytes × Bytes)) (file : Layer) (k : Item) :
    Yaml.Value → Prop
  | flag {v : FlagValue} (given : givenFlag? flags k = some v) :
      Chosen flags env file k (flagValue v)
  | env {e : Bytes × Bytes} (no_flag : givenFlag? flags k = none) (mem : e ∈ env)
      (name : IsVariable k e.1) : Chosen flags env file k (.atom (.text e.2))
  | file {v : Yaml.Value} (no_flag : givenFlag? flags k = none)
      (no_variable : ∀ e ∈ env, ¬ IsVariable k e.1) (found : file.lookup k.key = some v) :
      Chosen flags env file k v
  | builtin (no_flag : givenFlag? flags k = none) (no_variable : ∀ e ∈ env, ¬ IsVariable k e.1)
      (missing : file.lookup k.key = none) : Chosen flags env file k k.builtin

def stack (flags : Option Parsed) (env : List (Bytes × Bytes)) (file : Layer) : Layer :=
  (Layer.atop ((flags.map ofFlags).getD []) (ofEnvironment env)).atop (file.atop builtin)

def used (flags : Option Parsed) (env : List (Bytes × Bytes)) (file : Layer) (k : Item) :
    Yaml.Value :=
  ((stack flags env file).find? k.key).getD k.builtin

theorem Layer.find?_of_lookup {l : Layer} {key : Bytes} {v : Yaml.Value}
    (h : l.lookup key = some v) : l.find? key = some v := by
  rw [Layer.find?, h]

/-- The unused key has no other letter case. -/
theorem Layer.find?_unused (l : Layer) : l.find? Item.unused.key = l.lookup Item.unused.key := by
  cases h : l.lookup Item.unused.key with
  | some v => exact Layer.find?_of_lookup h
  | none =>
    rw [Layer.find?, h, Option.map_eq_none_iff, List.find?_eq_none]
    intro p hp hfold
    have hkey : p.1 = Item.unused.key := Bytes.eq_hyphen_of_foldKey (beq_iff_eq.mp hfold)
    have hne := List.lookup_eq_none_iff.mp h p hp
    rw [hkey, bne_self_eq_false] at hne
    cases hne

variable {flags : Option Parsed} {env : List (Bytes × Bytes)}

theorem lookup_stack (file : Layer) (k : Item) : (stack flags env file).lookup k.key =
    ((((flags.map ofFlags).getD []).lookup k.key).or ((ofEnvironment env).lookup k.key)).or
      ((file.lookup k.key).or (builtin.lookup k.key)) := by
  rw [stack, Layer.atop, Layer.atop, Layer.atop, List.lookup_append, List.lookup_append,
    List.lookup_append]

theorem exists_lookup_stack (file : Layer) {k : Item} (h : k ≠ .unused) :
    ∃ v, (stack flags env file).lookup k.key = some v := by
  apply Option.isSome_iff_exists.mp
  rw [lookup_stack, Item.lookup_builtin h]
  simp

/-- Keys in other letter cases are not used. -/
theorem used_eq (file : Layer) (k : Item) :
    used flags env file k = ((stack flags env file).lookup k.key).getD k.builtin := by
  rw [used]
  by_cases hk : k = .unused
  · rw [hk, Layer.find?_unused]
  · obtain ⟨v, hv⟩ := exists_lookup_stack file hk
    rw [Layer.find?_of_lookup hv, hv]

private theorem lookup_flags (h : ∀ p ∈ flags, OneFlagEach (p.values.map Prod.fst)) (k : Item) :
    ((flags.map ofFlags).getD []).lookup k.key = (givenFlag? flags k).map flagValue := by
  cases flags with
  | none => rfl
  | some p => exact lookup_ofFlags (h p rfl) k

/-- What the layers have for a setting is the value that counts for it. -/
theorem chosen_iff (hflags : ∀ p ∈ flags, OneFlagEach (p.values.map Prod.fst))
    (henv : PlainNames env) (file : Layer) (k : Item) (v : Yaml.Value) :
    Chosen flags env file k v ↔ used flags env file k = v := by
  have hvars := lookup_ofEnvironment henv k
  have hnone : (∀ e ∈ env, ¬ IsVariable k e.1) ↔ (ofEnvironment env).lookup k.key = none := by
    rw [Option.eq_none_iff_forall_ne_some]
    constructor
    · intro h v hv
      obtain ⟨e, he, hk, _⟩ := (hvars v).mp hv
      exact h e he hk
    · intro h e he hk
      exact h _ ((hvars _).mpr ⟨e, he, hk, rfl⟩)
  have hlast : (builtin.lookup k.key).getD k.builtin = k.builtin := by
    by_cases hk : k = .unused
    · rw [hk]
      rfl
    · rw [Item.lookup_builtin hk, Option.getD_some]
  rw [used_eq, lookup_stack, lookup_flags hflags]
  constructor
  · intro h
    cases h with
    | flag given => rw [given]; rfl
    | env no_flag mem name =>
      rw [no_flag, (hvars _).mpr ⟨_, mem, name, rfl⟩]
      rfl
    | file no_flag no_variable found =>
      rw [no_flag, hnone.mp no_variable, found]
      rfl
    | builtin no_flag no_variable missing =>
      rw [no_flag, hnone.mp no_variable, missing]
      exact hlast
  · rintro rfl
    cases hf : givenFlag? flags k with
    | some v => exact .flag hf
    | none =>
      cases he : (ofEnvironment env).lookup k.key with
      | some v =>
        obtain ⟨e, hmem, hname, rfl⟩ := (hvars v).mp he
        exact .env hf hmem hname
      | none =>
        have hv := hnone.mpr he
        cases hl : file.lookup k.key with
        | some v => exact .file hf hv hl
        | none =>
          have h := Chosen.builtin hf hv hl
          rw [← hlast] at h
          exact h

end Layers

end Settings

end CallAssist
