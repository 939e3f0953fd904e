import CallAssist.Command.Checkup
import CallAssist.Command.Completion
import CallAssist.Command.Host
import CallAssist.Command.Listing
import CallAssist.Command.Usage
import CallAssist.Prompt
import CallAssist.Server.Run

/-!
A program run on a command line. A run starts by finding the command, reading its flags, checking
its arguments, and loading the settings; most commands are then done at once, and the others leave
a job that goes on with what comes in.
-/

namespace CallAssist

/-- What is left to do after a command has started. -/
inductive Job where
  | done
  | serve (s : Server)
  | prompt (r : Renderer) (c : Catalog)
  | watch (w : Watcher) (r : Renderer) (limit : Int) (level : Level)

/-- A command that has started. -/
structure Started where
  trace : Trace
  result : Except Command.Failure Job

namespace Program

open Command

/-- What a command has to work with. -/
structure Setup where
  settings : Settings
  level : Level
  files : Files
  records : List Record

def openLog (fs : Files) (s : Settings) : Except Failure Files :=
  if s.logFile.isEmpty then .ok fs
  else match fs.makeDirectories (Path.directory s.logFile) with
    | .error e => .error (.logDirectory e)
    | .ok fs => match fs.openAppend s.logFile with
      | .error e => .error (.logFile s.logFile e)
      | .ok fs => .ok fs

def startRecords (s : Settings) (file : Option Bytes) : List Record :=
  if s.verbose then
    (match file with
      | some path => [.make .info "Using config file" [("path", path)]]
      | none => []) ++ [.make .info "Using catalog" [("path", s.catalogPath)]]
  else []

def setUp (p : Program) (h : Host) (flags : Parsed) : Except Failure Setup :=
  match p.settings with
  | some s => .ok ⟨s, .info, h.files, []⟩
  | none =>
    let loaded := Settings.load h.files h.env ((flags.text? "config").getD []) (some flags)
    match loaded.settings with
    | .error e => .error (.settings e)
    | .ok s => match openLog h.files s with
      | .error e => .error e
      | .ok fs =>
        .ok ⟨s, s.threshold.toOption.getD .info, fs, startRecords s loaded.file⟩

def checkArguments (p : Program) (c : Command) (args : List Bytes) : Except Failure Unit :=
  match c with
  | .list => if 1 < args.length then .error (.tooMany 1 args.length) else .ok ()
  | .complete => if args.isEmpty then .error (.tooFew 1 0) else .ok ()
  | .completion =>
    if args.length != 1 then .error (.wrongCount 1 args.length)
    else match args.find? fun a => !c.choices.contains a with
      | some a => .error (.badArgument a (p.path c))
      | none => .ok ()
  | .scriptFor _ => match args with
    | a :: _ => .error (.unknownCommand a (p.path c) [])
    | [] => .ok ()
  | _ => .ok ()

abbrev Action := Printed × Except Failure Job

def finished (t : Printed) : Action := (t, .ok .done)

def checkPaths (h : Host) (r : Renderer) (paths : List Bytes) (limit : Int) :
    Except Failure (Printed × Nat) :=
  match Validation.outcome h.files paths limit h.cancelled with
  | .calledOff => .error .cancelled
  | .brokeDown => .error .breakdown
  | .verdicts vs => .ok (Checkup.printed r vs, Checkup.failed vs)

def validate (h : Host) (s : Setup) (r : Renderer) (flags : Parsed) : Action :=
  let paths := if flags.args.isEmpty then [s.settings.catalogPath] else flags.args
  let limit := (flags.int? "jobs").getD 0
  match checkPaths h r paths limit with
  | .error e => (.empty, .error e)
  | .ok (text, failed) =>
    if (flags.bool? "watch").getD false then
      match Watcher.open? h.files paths with
      | .error e => (text, .error (.watch e))
      | .ok w =>
        (text ++ r.note (utf8 "Watching for changes. Press Ctrl+C to stop."),
          .ok (.watch w r limit s.level))
    else if 0 < failed then (text, .error (.invalidCatalogs failed paths.length))
    else finished text

def resolve (s : Setup) (r : Renderer) (flags : Parsed) : Action :=
  match Catalog.load s.files s.settings.catalogPath with
  | .error e => (.empty, .error (.load e))
  | .ok c =>
    if (flags.bool? "interactive").getD false then (Prompt.greeting c, .ok (.prompt r c))
    else match flags.text? "line" with
      | none => (.empty, .error .lineMissing)
      | some line =>
        let column := (flags.int? "col").getD (-1)
        finished (Resolution.printed r
          (c.resolve line (if column < 0 then line.length else column)))

def list (s : Setup) (r : Renderer) (flags : Parsed) : Action :=
  match Catalog.load s.files (flags.args.head?.getD s.settings.catalogPath) with
  | .error e => (.empty, .error (.load e))
  | .ok c => finished (Listing.printed r c ((flags.text? "prefix").getD []))

def act (p : Program) (h : Host) (s : Setup) (c : Command) (flags : Parsed) : Action :=
  let h := { h with files := s.files }
  let r := Renderer.make (.ofName s.settings.output) h.terminal h.colors h.env
  match c with
  | .version =>
    finished (.line (utf8 "nvgtls v" ++ p.version) ++
      .line (utf8 "NVGT language server and function catalog tools"))
  | .lsp => (.empty, .ok (.serve (Server.fresh s.settings.catalogPath p.version s.level true)))
  | .list => list s r flags
  | .validate => validate h s r flags
  | .resolve => resolve s r flags
  | c => finished (.text (Usage.help p c))

def plainStart (h : Host) (a : Action) : Started := ⟨⟨[⟨[], a.1⟩], none, h.files, []⟩, a.2⟩

def debugFile? (h : Host) : Option Bytes :=
  (h.env.lookup (utf8 "BASH_COMP_DEBUG_FILE")).filter (!·.isEmpty)

def debugged (h : Host) (text : Bytes) : Files :=
  match debugFile? h with
  | none => h.files
  | some path =>
    if text.isEmpty then h.files
    else match h.files.openAppend path with
      | .error _ => h.files
      | .ok fs => fs.append path text

def startCompletion (p : Program) (h : Host) (word : Bytes) (words : List Bytes) : Started :=
  let o := Completion.offer p words
  let described := Completion.describes p h.env (Completion.askedBy p word words)
  ⟨⟨[⟨[], o.printed described⟩], none, debugged h o.diagnostics, o.diagnostics⟩, .ok .done⟩

def startCommand (p : Program) (h : Host) (c : Command) (flags : Parsed) : Started :=
  match p.checkArguments c flags.args with
  | .error e => plainStart h (.empty, .error e)
  | .ok _ => match c with
    | .help => plainStart h (finished (Usage.topic p flags.args))
    | .completion =>
      plainStart h (finished (.text (Usage.script (flags.args.head?.getD []))))
    | .scriptFor s => plainStart h (finished (.text (Usage.script s.name)))
    | c => match p.setUp h flags with
      | .error e => plainStart h (.empty, .error e)
      | .ok s =>
        let (text, result) := p.act h s c flags
        let logFile := if s.settings.logFile.isEmpty || p.settings.isSome then none
          else some s.settings.logFile
        ⟨⟨[⟨s.records, text⟩], logFile, s.files, []⟩, result⟩

def start (p : Program) (h : Host) (args : List Bytes) : Started :=
  let p := p.onArguments args
  match p.find args with
  | .error e => plainStart h (.empty, .error e)
  | .ok called =>
    let c := called.command
    if c == .complete then
      match p.checkArguments c called.args with
      | .error e => plainStart h (.empty, .error e)
      | .ok _ => p.startCompletion h called.word called.args
    else match parseFlags (p.allFlags c) called.args with
      | .error e => plainStart h (.empty, .error (.flag e))
      | .ok flags =>
        if (flags.bool? "help").getD false then
          plainStart h (finished (.text (Usage.help p c)))
        else if (flags.bool? "version").getD false then
          plainStart h (finished (.line (c.name ++ utf8 " " ++ p.version)))
        else if !c.isRunnable then plainStart h (finished (.text (Usage.help p c)))
        else p.startCommand h c flags

end Program

namespace Server

def report (os : List Output) : Report :=
  ⟨os.filterMap fun
    | .record r => some r
    | .message _ => none,
  .text (os.flatMap fun
    | .message m => m.write
    | .record _ => [])⟩

end Server

def Watcher.react (h : Host) (r : Renderer) (limit : Int) (level : Level) (w : Watcher)
    (e : Watcher.Event) : Watcher × Report :=
  let (w, reaction) := w.step e
  let kept (rs : List Record) : List Record := rs.filter fun x => level.rank ≤ x.level.rank
  match reaction.batch with
  | none => (w, ⟨kept reaction.records, .empty⟩)
  | some paths => match Program.checkPaths h r paths limit with
    | .ok (text, _) => (w, ⟨kept reaction.records, text⟩)
    | .error e =>
      (w, ⟨kept (reaction.records ++ [.make .warn "Validation interrupted" [("error", e.message)]]),
        .empty⟩)

/-- How a run ended. -/
inductive Ending where
  | success
  | failure (e : Command.Failure)
  | crash

/-- A whole run. -/
structure Outcome where
  trace : Trace
  ending : Ending

namespace Program

open Command

def run (p : Program) (h : Host) (args : List Bytes) (input : Bytes) : Outcome :=
  let s := p.start h args
  let more (rs : List Report) : Trace := { s.trace with reports := s.trace.reports ++ rs }
  match s.result with
  | .error e => ⟨s.trace, if e.isBreakdown then .crash else .failure e⟩
  | .ok .done => ⟨s.trace, .success⟩
  | .ok (.watch ..) => ⟨s.trace, .success⟩
  | .ok (.prompt r c) => ⟨more [⟨[], Prompt.answers r c (Prompt.lines input)⟩], .success⟩
  | .ok (.serve server) =>
    let r := server.run s.trace.files input
    ⟨more (r.turns.map fun t => Server.report t.outputs),
      match r.stop with
      | .crashed => .crash
      | _ => .success⟩

def complaint (e : Failure) : Printed := .errorLine (utf8 "Error: " ++ e.message)

def main (p : Program) (h : Host) (args : List Bytes) (input : Bytes) : Outcome :=
  let o := p.run h args input
  match o.ending with
  | .failure e =>
    { o with trace := { o.trace with reports := o.trace.reports ++ [⟨[], complaint e⟩] } }
  | _ => o

end Program

end CallAssist
