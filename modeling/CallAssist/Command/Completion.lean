import CallAssist.Command.Program
import CallAssist.Render.Basic
import CallAssist.Text.Blank

/-!
What a shell may offer for the last word of an unfinished command line: names of commands, names of
flags, and values of flags and arguments.
-/

namespace CallAssist

namespace Completion

open Command Program

/-- What the shell is to do besides offering the choices. -/
inductive Directive where
  | files
  | noFiles
  | extensions
  deriving DecidableEq, Repr

def Directive.code : Directive → Nat
  | .files => 0
  | .noFiles => 4
  | .extensions => 8

def Directive.label : Directive → Bytes
  | .files => utf8 "ShellCompDirectiveDefault"
  | .noFiles => utf8 "ShellCompDirectiveNoFileComp"
  | .extensions => utf8 "ShellCompDirectiveFilterFileExt"

/-- A choice and what it is, if that is known. -/
structure Choice where
  word : Bytes
  purpose : Bytes := []

/-- The choices for a word, or why there are none. -/
structure Offer where
  choices : List Choice
  directive : Directive
  trouble : Option Bytes

namespace Offer

def empty : Offer := ⟨[], .files, none⟩

def failed (message : Bytes) : Offer := ⟨[], .files, some message⟩

end Offer

def bracketed (args : List Bytes) : Bytes := utf8 "[" ++ Bytes.join (utf8 " ") args ++ utf8 "]"

def commands (p : Program) (c : Command) (word : Bytes) : List Choice :=
  (((p.children c).filter fun d => word.isPrefixOf d.name).mergeSort
    fun a b => Bytes.le a.name b.name).map fun d => ⟨d.name, d.summary⟩

def spellings (word : Bytes) (f : Flag) : List Choice :=
  let long := utf8 "--" ++ f.name
  let short := match f.letter with
    | some c => [[0x2D, c]]
    | none => []
  ((long :: short).filter word.isPrefixOf).map fun w => ⟨w, f.purpose⟩

/-- The flags not yet given whose names start with a word: those of all commands, then those of the
command, each by name. -/
def flags (p : Program) (c : Command) (given : Parsed) (word : Bytes) : List Choice :=
  let sorted (fs : List Flag) : List Flag := fs.mergeSort fun a b => Bytes.le a.name b.name
  let open_ (f : Flag) : Bool := (given.values.lookup f.name).isNone
  let groups :=
    if c == p.top then [sorted (p.allFlags c)] else [sorted p.flags, sorted (localFlags c)]
  (groups.flatten.filter open_).flatMap (spellings word)

def values (f : Flag) : Offer :=
  if f.name == utf8 "output" then ⟨Settings.outputs.map fun o => ⟨o, []⟩, .noFiles, none⟩
  else if f.name == utf8 "log-level" then
    ⟨["debug", "info", "warn", "error"].map fun l => ⟨utf8 l, []⟩, .noFiles, none⟩
  else if f.name == utf8 "catalog" then
    ⟨["json", "yaml", "yml"].map fun e => ⟨utf8 e, []⟩, .extensions, none⟩
  else .empty

def isFlag : Bytes → Bool
  | 0x2D :: 0x2D :: _ :: _ => true
  | 0x2D :: c :: _ => c != 0x2D
  | _ => false

def flagName (arg : Bytes) : Bytes :=
  if (utf8 "--").isPrefixOf arg then arg.drop 2 else arg.drop (arg.length - 1)

def flagNamed? (fs : List Flag) (name : Bytes) : Option Flag :=
  match name with
  | [letter] => fs.find? (·.letter == some letter)
  | _ => fs.find? (·.name == name)

/-- What is to be completed: a value of a flag or something else, after which arguments, and a flag
that is not known. -/
structure Task where
  flag : Option Flag
  args : List Bytes
  word : Bytes
  unknown : Option Bytes := none

def task (fs : List Flag) (args : List Bytes) (word : Bytes) : Task :=
  let resolve (name : Bytes) (trimmed : List Bytes) (rest : Bytes) (joined : Bool) : Task :=
    if name.isEmpty then ⟨none, trimmed, rest, none⟩
    else match flagNamed? fs name with
      | none => ⟨none, args, word, some name⟩
      | some f =>
        if !joined && f.isSwitch then ⟨none, args, rest, none⟩
        else ⟨some f, trimmed, rest, none⟩
  let previous (rest : Bytes) (joined : Bool) : Task :=
    match args.getLast? with
    | some arg =>
      if isFlag arg && !arg.contains 0x3D then resolve (flagName arg) args.dropLast rest joined
      else resolve [] args rest joined
    | none => resolve [] args rest joined
  if startsWithHyphen word then
    match Bytes.cut 0x3D word with
    | none => ⟨none, args, word, none⟩
    | some (spelled, rest) =>
      let name := flagName spelled
      if name.isEmpty then previous rest true else resolve name args rest true
  else previous word false

/-- What a command offers by a rule of its own: help is offered on the commands below the one that
the arguments call, and nothing to those who ask for scripts. -/
def ruled? (p : Program) (c : Command) (before : List Bytes) (word : Bytes) : Option Offer :=
  match c with
  | .help => match p.find before with
    | .error _ => some ⟨[], .noFiles, none⟩
    | .ok called => some ⟨commands p called.command word, .noFiles, none⟩
  | .scripts | .scriptFor _ => some ⟨[], .noFiles, none⟩
  | _ => none

def arguments (p : Program) (c : Command) (before : List Bytes) (word : Bytes) : Offer :=
  let subcommands := if before.isEmpty then commands p c word else []
  let directive := if before.isEmpty && !(p.children c).isEmpty then .noFiles else .files
  if !c.choices.isEmpty then
    if before.isEmpty then
      ⟨subcommands ++ (c.choices.filter word.isPrefixOf).map (⟨·, []⟩), .noFiles, none⟩
    else ⟨subcommands, directive, none⟩
  else match ruled? p c before word with
    | some o => { o with choices := subcommands ++ o.choices }
    | none => ⟨subcommands, directive, none⟩

def isPastFlags (fs : List Flag) (args : List Bytes) (given : Parsed) : Bool :=
  match parseFlags fs (args ++ [flagsEnd]) with
  | .ok more => given.args.length < more.args.length
  | .error _ => false

/-- The choices for a task, after the flags in `given`. After a call for help or for the version
nothing more is offered. -/
def offerFor (p : Program) (c : Command) (t : Task) (given : Parsed) : Offer :=
  let past := isPastFlags (p.allFlags c) t.args given
  match t.unknown, past with
  | some name, false =>
    .failed (utf8 "Subcommand '" ++ c.name ++ utf8 "' does not support flag '" ++ name ++ utf8 "'")
  | _, _ =>
    if given.has "help" || given.has "version" then ⟨[], .noFiles, none⟩
    else match t.flag with
      | some f => if past then (ruled? p c given.args t.word).getD .empty else values f
      | none =>
        if startsWithHyphen t.word && !t.word.contains 0x3D && !past then
          ⟨flags p c given t.word, .noFiles, none⟩
        else arguments p c given.args t.word

/-- The command that some words call before the last one. Where nothing stands below the top of a
program, words call nothing. -/
def called (p : Program) (before : List Bytes) : Except Failure Called :=
  if (p.children p.top).isEmpty then .ok ⟨p.top, p.top.name, before⟩ else p.find before

/-- The choices for the last of some words. A call for completions has its words kept as they are,
so only the flags can be told. -/
def offer (p : Program) (words : List Bytes) : Offer :=
  let before := words.dropLast
  let word := words.getLast?.getD []
  match called p before with
  | .error _ => .failed (utf8 "unable to find a command for arguments: " ++ bracketed before)
  | .ok called =>
    if called.command == .complete then
      if startsWithHyphen word && !word.contains 0x3D then
        ⟨flags p .complete .empty word, .noFiles, none⟩
      else .empty
    else
      let fs := p.allFlags called.command
      let t := task fs called.args word
      match parseFlags fs t.args with
      | .error e =>
        .failed (utf8 "Error while parsing flags from args " ++ bracketed t.args ++ utf8 ": " ++
          e.message)
      | .ok given => offerFor p called.command t given

def Choice.line (described : Bool) (c : Choice) : Bytes :=
  let t := if described then c.word ++ utf8 "\t" ++ c.purpose else c.word
  Bytes.trim (t.takeWhile (· != 0x0A)) ++ [0x0A]

def Offer.diagnostics (o : Offer) : Bytes :=
  match o.trouble with
  | some m => utf8 "[Debug] [Error] " ++ m ++ [0x0A]
  | none => []

def Offer.printed (described : Bool) (o : Offer) : Printed :=
  ⟨o.choices.flatMap (Choice.line described) ++ utf8 ":" ++ Bytes.ofNat o.directive.code ++ [0x0A],
    utf8 "Completion ended with directive: " ++ o.directive.label ++ [0x0A]⟩

def askedBy (p : Program) (word : Bytes) (words : List Bytes) : Bytes :=
  match called p words.dropLast with
  | .ok c => if c.command == .complete then c.word else word
  | .error _ => word

def descriptionsVariable : Bytes := utf8 "_COMPLETION_DESCRIPTIONS"

/-- Whether choices are to be described: not when asked for bare, nor when the environment is
against it, by a variable of this program or else by one that many programs share. -/
def describes (p : Program) (env : List (Bytes × Bytes)) (word : Bytes) : Bool :=
  let value (front : Bytes) : Bytes := (env.lookup (front ++ descriptionsVariable)).getD []
  let own := value (Bytes.toUpper p.top.name)
  let said := if own.isEmpty then value (utf8 "COBRA") else own
  word != bareCompleteName && (Settings.boolWord? said).getD true

end Completion

end CallAssist
