import CallAssist.Command.Basic
import CallAssist.Command.Failure
import CallAssist.Command.Similar

/-!
A program made of commands, and the command that a command line calls. Flags may stand anywhere; an
argument that is neither a flag nor the value of one may be the name of a command.
-/

namespace CallAssist

/-- A program: the command at its top, the flags that all its commands take, its version, and its
settings, if they are not to be looked for. `scripted` tells that the command for completion scripts
stands below the top although nothing else does. -/
structure Program where
  top : Command
  flags : List Command.Flag
  version : Bytes
  settings : Option Settings
  scripted : Bool := false

/-- A command that was called, the word it was called by, and the arguments left for it. -/
structure Called where
  command : Command
  word : Bytes
  args : List Bytes

namespace Program

open Command

def full : Program :=
  { top := .root, flags := commonFlags, version := utf8 "0.1.0", settings := none }

def single (c : Command) (version : Bytes) (s : Settings) : Program :=
  { top := c, flags := [], version := version, settings := some s }

def children (p : Program) : Command → List Command
  | .root => [.version, .lsp, .catalog, .resolve, .completion, .help]
  | .catalog =>
    [.list, .validate] ++ if p.top == .catalog then [.help, .scripts] else []
  | .scripts => Shell.all.map .scriptFor
  | c => if p.scripted && c == p.top then [.scripts] else []

def lineage (p : Program) (c : Command) : List Command :=
  match c with
  | .list | .validate => if p.top == .catalog then [p.top, c] else [p.top, .catalog, c]
  | .scriptFor _ => [p.top, .scripts, c]
  | c => if c == p.top then [c] else [p.top, c]

def path (p : Program) (c : Command) : Bytes := Bytes.join (utf8 " ") ((p.lineage c).map name)

def searchFlags (p : Program) (c : Command) : List Flag := c.ownFlags ++ p.flags

def helpFlag (c : Command) : Flag := ⟨utf8 "help", some 0x68, .bool, utf8 "help for " ++ c.name⟩

def versionFlag : Flag := .make "version" none .bool "version for nvgtls"

def localFlags (c : Command) : List Flag :=
  c.ownFlags ++ [helpFlag c] ++ if c == .root then [versionFlag] else []

def allFlags (p : Program) (c : Command) : List Flag := localFlags c ++ p.flags

def flagsEnd : Bytes := utf8 "--"

def startsWithHyphen (t : Bytes) : Bool := t.head? == some 0x2D

def takesNext (flags : List Flag) (arg : Bytes) : Bool :=
  !arg.contains 0x3D && match arg with
    | 0x2D :: 0x2D :: name => !(flags.any fun f => f.name == name && f.isSwitch)
    | [0x2D, letter] => !(flags.any fun f => f.letter == some letter && f.isSwitch)
    | _ => false

/-- The arguments that are neither flags nor values of flags. A flag that wants a value ends the
search when at most one argument is left. -/
def positional (flags : List Flag) : List Bytes → List Bytes
  | [] => []
  | arg :: rest =>
    if arg == flagsEnd then []
    else if takesNext flags arg then
      match rest with
      | _ :: r :: rest => positional flags (r :: rest)
      | _ => []
    else if arg.isEmpty || startsWithHyphen arg then positional flags rest
    else arg :: positional flags rest

def without (flags : List Flag) (word : Bytes) : List Bytes → List Bytes
  | [] => []
  | arg :: rest =>
    if arg == flagsEnd then arg :: rest
    else if takesNext flags arg then
      match rest with
      | [] => [arg]
      | value :: rest => arg :: value :: without flags word rest
    else if arg == word && !startsWithHyphen arg then rest
    else arg :: without flags word rest

def child? (p : Program) (c : Command) (word : Bytes) : Option Command :=
  let hidden : List Command := if c == p.top then [.complete] else []
  (p.children c ++ hidden).find? (·.answersTo word)

def descend (p : Program) : Nat → Called → Called
  | 0, called => called
  | levels + 1, called =>
    let flags := p.searchFlags called.command
    match positional flags called.args with
    | [] => called
    | word :: _ => match p.child? called.command word with
      | none => called
      | some c => descend p levels ⟨c, word, without flags word called.args⟩

def similar (p : Program) (c : Command) (word : Bytes) : List Bytes :=
  ((p.children c).filter (· != .help)).map name |>.filter (Similar.isNear word)

/-- The command that arguments call. At the top a word must be the name of a command, if there are
commands at all. -/
def find (p : Program) (args : List Bytes) : Except Failure Called :=
  let called := p.descend (args.length + 1) ⟨p.top, p.top.name, args⟩
  let c := called.command
  match positional (p.searchFlags c) called.args with
  | word :: _ =>
    if c == p.top && !(p.children c).isEmpty then
      .error (.unknownCommand word (p.path c) (p.similar c word))
    else .ok called
  | [] => .ok called

/-- Whether arguments call the command for completion scripts, or ask how to complete a call of
it. -/
def callsScripts (c : Called) : Bool :=
  match c.command with
  | .scripts | .scriptFor _ => true
  | .complete => 1 < c.args.length && c.args.head? == some (name .scripts)
  | _ => false

/-- The program that some arguments are given to. Where nothing stands below its top, the command
for completion scripts is only there for those who call it. -/
def onArguments (p : Program) (args : List Bytes) : Program :=
  if (p.children p.top).isEmpty then
    let q := { p with scripted := true }
    match q.find args with
    | .ok called => if callsScripts called then q else p
    | .error _ => p
  else p

end Program

end CallAssist
