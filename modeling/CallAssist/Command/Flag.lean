import CallAssist.Log.Level
import CallAssist.Settings.Layer

/-!
Flags on a command line: `--name value`, `--name=value`, `-n value`, `-nvalue`, `-n=value`, and
several one-letter flags in one argument. A truth value needs no argument of its own.
-/

namespace CallAssist

namespace Command

inductive FlagKind where
  | text
  | bool
  | int
  deriving DecidableEq, Repr

/-- A flag that may be given. -/
structure Flag where
  name : Bytes
  letter : Option UInt8
  kind : FlagKind
  purpose : Bytes
  deriving DecidableEq, Repr

def Flag.make (name : String) (letter : Option Char) (kind : FlagKind) (purpose : String) : Flag :=
  ⟨utf8 name, letter.map fun c => c.toNat.toUInt8, kind, utf8 purpose⟩

def Flag.isSwitch (f : Flag) : Bool := f.kind == .bool

inductive FlagValue where
  | text (t : Bytes)
  | bool (b : Bool)
  | int (n : Int)
  deriving DecidableEq, Repr

/-- What can be wrong with an argument. -/
inductive FlagError where
  | badForm (arg : Bytes)
  | unknown (name : Bytes)
  | unknownLetter (letter : UInt8) (letters : Bytes)
  | needsValue (name : Bytes)
  | letterNeedsValue (letter : UInt8) (letters : Bytes)
  | badBool (value : Bytes) (flag : Flag)
  | badInt (value : Bytes) (flag : Flag) (fault : Integer.Fault)
  | helpWanted
  deriving DecidableEq, Repr

def Flag.label (f : Flag) : Bytes :=
  match f.letter with
  | some c => utf8 "-" ++ [c] ++ utf8 ", --" ++ f.name
  | none => utf8 "--" ++ f.name

/-- The character a letter is shown as. A letter that is no ASCII character is shown by the first
byte of its two-byte form. -/
def letterChar (b : UInt8) : Char :=
  if b < 0x80 then Char.ofNat b.toNat else if b < 0xC0 then 'Â' else 'Ã'

def FlagError.message : FlagError → Bytes
  | .badForm arg => utf8 "bad flag syntax: " ++ arg
  | .unknown name => utf8 "unknown flag: --" ++ name
  | .unknownLetter c letters =>
    utf8 "unknown shorthand flag: " ++ quotedChar (letterChar c) ++ utf8 " in -" ++ letters
  | .needsValue name => utf8 "flag needs an argument: --" ++ name
  | .letterNeedsValue c letters =>
    utf8 "flag needs an argument: " ++ quotedChar (letterChar c) ++ utf8 " in -" ++ letters
  | .badBool value f =>
    utf8 "invalid argument " ++ Bytes.quoted value ++ utf8 " for " ++ Bytes.quoted f.label ++
      utf8 " flag: " ++ Integer.Fault.form.describe (utf8 "ParseBool") value
  | .badInt value f fault =>
    utf8 "invalid argument " ++ Bytes.quoted value ++ utf8 " for " ++ Bytes.quoted f.label ++
      utf8 " flag: " ++ fault.describe (utf8 "ParseInt") value
  | .helpWanted => utf8 "pflag: help requested"

def Flag.read (f : Flag) (value : Bytes) : Except FlagError FlagValue :=
  match f.kind with
  | .text => .ok (.text value)
  | .bool => match Settings.boolWord? value with
    | some b => .ok (.bool b)
    | none => .error (.badBool value f)
  | .int => match Integer.literal value with
    | .ok n => .ok (.int n)
    | .error fault => .error (.badInt value f fault)

/-- Flags that were given, the latest first, and the other arguments in order. -/
structure Parsed where
  values : List (Bytes × FlagValue)
  args : List Bytes
  deriving DecidableEq, Repr

namespace Parsed

def empty : Parsed := ⟨[], []⟩

def has (p : Parsed) (name : String) : Bool := (p.values.lookup (utf8 name)).isSome

def text? (p : Parsed) (name : String) : Option Bytes :=
  match p.values.lookup (utf8 name) with
  | some (.text t) => some t
  | _ => none

def bool? (p : Parsed) (name : String) : Option Bool :=
  match p.values.lookup (utf8 name) with
  | some (.bool b) => some b
  | _ => none

def int? (p : Parsed) (name : String) : Option Int :=
  match p.values.lookup (utf8 name) with
  | some (.int n) => some n
  | _ => none

def set (p : Parsed) (f : Flag) (value : Bytes) : Except FlagError Parsed := do
  let v ← f.read value
  return { p with values := (f.name, v) :: p.values }

end Parsed

def splitEquals (t : Bytes) : Bytes × Option Bytes :=
  match Bytes.cut 0x3D t with
  | some (name, value) => (name, some value)
  | none => (t, none)

def parseLong (flags : List Flag) (p : Parsed) (arg : Bytes) (rest : List Bytes) :
    Except FlagError (Parsed × List Bytes) :=
  let body := arg.drop 2
  match body with
  | [] => .error (.badForm arg)
  | b :: _ =>
    if b == 0x2D || b == 0x3D then .error (.badForm arg)
    else
      let (name, value) := splitEquals body
      match flags.find? (·.name == name) with
      | none => .error (if name == utf8 "help" then .helpWanted else .unknown name)
      | some f => match value with
        | some v => do return (← p.set f v, rest)
        | none =>
          if f.isSwitch then do return (← p.set f (utf8 "true"), rest)
          else match rest with
            | v :: rest => do return (← p.set f v, rest)
            | [] => .error (.needsValue name)

def parseLetters (flags : List Flag) (rest : List Bytes) :
    Parsed → Bytes → Except FlagError (Parsed × List Bytes)
  | p, [] => .ok (p, rest)
  | p, c :: letters =>
    if (utf8 "test.").isPrefixOf (c :: letters) then .ok (p, rest)
    else match flags.find? (·.letter == some c) with
      | none => .error (if c == 0x68 then .helpWanted else .unknownLetter c (c :: letters))
      | some f => match letters with
        | [] =>
          if f.isSwitch then do return (← p.set f (utf8 "true"), rest)
          else match rest with
            | v :: rest => do return (← p.set f v, rest)
            | [] => .error (.letterNeedsValue c [c])
        | e :: value =>
          if e == 0x3D && !value.isEmpty then do return (← p.set f value, rest)
          else if f.isSwitch then
            match p.set f (utf8 "true") with
            | .error e => .error e
            | .ok p => parseLetters flags rest p (e :: value)
          else do return (← p.set f (e :: value), rest)

/-- Arguments read one by one; `--` ends the flags. -/
def parseFrom (flags : List Flag) : Nat → Parsed → List Bytes → Except FlagError Parsed
  | 0, p, _ => .ok p
  | _ + 1, p, [] => .ok p
  | fuel + 1, p, arg :: rest =>
    match arg with
    | 0x2D :: 0x2D :: name =>
      if name.isEmpty then .ok { p with args := p.args ++ rest }
      else match parseLong flags p arg rest with
        | .error e => .error e
        | .ok (p, rest) => parseFrom flags fuel p rest
    | 0x2D :: c :: letters => match parseLetters flags rest p (c :: letters) with
      | .error e => .error e
      | .ok (p, rest) => parseFrom flags fuel p rest
    | arg => parseFrom flags fuel { p with args := p.args ++ [arg] } rest

def parseFlags (flags : List Flag) (args : List Bytes) : Except FlagError Parsed :=
  parseFrom flags (args.length + 1) .empty args

def commonFlags : List Flag := [
  .make "config" none .text "config file (default: nvgtls.yaml in the project root)",
  .make "catalog" none .text "Path to the function catalog (JSON or YAML)",
  .make "log-level" none .text "Log level (debug|info|warn|error)",
  .make "log-file" none .text "Write logs to this file instead of stderr",
  .make "verbose" (some 'v') .bool "Verbose output",
  .make "output" (some 'o') .text "Output format (auto|text|markdown|json)"]

end Command

end CallAssist
