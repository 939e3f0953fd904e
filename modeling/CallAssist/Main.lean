import CallAssist.Command.Reads
import Std.Time.DateTime

/-!
The program: it fetches the files a run may look at, starts the run, and carries out what is left to
do.
-/

namespace CallAssist

namespace Main

def string (t : Bytes) : String := (String.fromUTF8? (ByteArray.mk t.toArray)).getD ""

def bytes (a : ByteArray) : Bytes := a.toList

def look (path : Bytes) : IO (Option Node) := do
  let path := (← IO.currentDir) / string path
  if ← path.isDir then return some .directory
  try
    return some (.file (bytes (← IO.FS.readBinFile path)))
  catch _ => return none

def addPath (fs : Files) (path : Bytes) : IO Files := do
  let full := Path.absolute fs.cwd path
  let mut fs := fs
  for p in (Settings.ancestors (full.length + 2) full).reverse do
    if let some n ← look p then
      fs := fs.put ((fs.names p).filter (!·.isEmpty)) n
  return fs

/-- A snapshot of the files to be looked at. Each round may find files that name others. -/
def gather (cwd : Bytes) (reads : Files → List Bytes) : IO Files := do
  let mut fs : Files := ⟨cwd, []⟩
  for _ in [0:3] do
    fs ← (cwd :: reads fs).foldlM addPath ⟨cwd, []⟩
  return fs

def environment : IO (List (Bytes × Bytes)) := do
  let text ← try
    pure (bytes (← IO.FS.readBinFile "/proc/self/environ"))
  catch _ => pure []
  return (text.split 0).filterMap (Bytes.cut 0x3D)

def stamp : IO Bytes := do
  let now := Std.Time.PlainDateTime.ofWallTime ((← Std.Time.Timestamp.now).toWallTime .zero)
  let two (n : Int) : Bytes := (if n < 10 then utf8 "0" else []) ++ Bytes.ofInt n
  let three (n : Int) : Bytes := (if n < 100 then utf8 "0" else []) ++ two n
  return utf8 "time=" ++ Bytes.ofInt now.year.toInt ++ utf8 "-" ++ two now.month.val ++ utf8 "-" ++
    two now.day.val ++ utf8 "T" ++ two now.hour.val ++ utf8 ":" ++ two now.minute.val ++ utf8 ":" ++
    two now.second.val ++ utf8 "." ++ three (now.nanosecond.val / 1000000) ++ utf8 "Z "

def emit (logFile : Option Bytes) (reports : List Report) : IO Unit := do
  let out ← IO.getStdout
  let err ← IO.getStderr
  for r in reports do
    let text := r.logText (← stamp)
    if !text.isEmpty then
      match logFile with
      | none => err.write (ByteArray.mk text.toArray)
      | some path =>
        let file ← IO.FS.Handle.mk (string path) .append
        file.write (ByteArray.mk text.toArray)
    out.write (ByteArray.mk r.printed.out.toArray)
    out.flush
    err.write (ByteArray.mk r.printed.err.toArray)
    err.flush

def diagnose (debugFile : Option Bytes) (text : Bytes) : IO Unit := do
  if text.isEmpty then return
  if let some path := debugFile then
    try
      let file ← IO.FS.Handle.mk (string path) .append
      file.write (ByteArray.mk text.toArray)
    catch _ => pure ()
  (← IO.getStderr).write (ByteArray.mk text.toArray)

partial def fill (input : IO.FS.Stream) (buffer : Bytes) : IO Bytes := do
  match Server.missing buffer with
  | 0 => return buffer
  | n =>
    let chunk ← input.read n.toUSize
    if chunk.isEmpty then return buffer else fill input (buffer ++ bytes chunk)

partial def serve (cwd : Bytes) (logFile : Option Bytes) (s : Server) (buffer : Bytes) :
    IO UInt32 := do
  if s.broken then return 2
  if s.stopped then return 0
  let buffer ← fill (← IO.getStdin) buffer
  match Server.readFrame buffer with
  | .closed =>
    emit logFile [Server.report s.disconnect.2]
    return 0
  | .crashed _ => return 2
  | .failed e rest =>
    emit logFile [Server.report (s.log [Server.frameFault e])]
    serve cwd logFile s rest
  | .message m rest =>
    let fs ← gather cwd fun fs => s.reads fs m
    let (s, outputs) := s.handle fs m
    emit logFile [Server.report outputs]
    serve cwd logFile s rest

partial def prompt (r : Renderer) (c : Catalog) : IO UInt32 := do
  let out ← IO.getStdout
  if ← out.isTty then
    out.putStr "nvgt> "
    out.flush
  let line ← (← IO.getStdin).getLine
  if line.isEmpty then return 0
  let requests := (Prompt.lines (utf8 line)).map Prompt.Request.ofLine
  emit none (requests.map fun q => ⟨[], Prompt.respond r c q⟩)
  if requests.contains .quit then return 0 else prompt r c

partial def watch (h : Host) (logFile : Option Bytes) (r : Renderer) (limit : Int) (level : Level)
    (w : Watcher) (seen : Files) : IO UInt32 := do
  IO.sleep 100
  let paths := w.tracked.map (·.1)
  let fs ← gather h.files.cwd fun _ => paths
  let changes := paths.filterMap fun p => (FileChange.between seen fs p).map (p, ·)
  let news := changes.any (·.2.isNews)
  let events := changes.map (fun (p, c) => .change p c) ++ if news then [] else [.quiet]
  let (w, reports) := events.foldl (fun (w, rs) e =>
    let (w, report) := w.react { h with files := fs } r limit level e
    (w, rs ++ [report])) (w, [])
  emit logFile reports
  watch h logFile r limit level w fs

end Main

end CallAssist

open CallAssist CallAssist.Main in
def main (args : List String) : IO UInt32 := do
  let args := args.map utf8
  let cwd := utf8 (← IO.currentDir).toString
  let env ← environment
  let terminal ← (← IO.getStdout).isTty
  let host (fs : Files) : Host :=
    { files := fs, env := env, terminal := terminal, colors := terminal }
  let fs ← gather cwd fun fs => Program.full.reads (host fs) args
  let s := Program.full.start (host fs) args
  diagnose (Program.debugFile? (host fs)) s.trace.diagnostics
  if let some path := s.trace.logFile then
    IO.FS.createDirAll (string (Path.directory path))
  emit s.trace.logFile s.trace.reports
  match s.result with
  | .error e =>
    if e.isBreakdown then return 2
    emit none [⟨[], Program.complaint e⟩]
    return 1
  | .ok .done => return 0
  | .ok (.serve server) =>
    emit s.trace.logFile [Server.report (server.log [Server.greeting])]
    serve cwd s.trace.logFile server []
  | .ok (.prompt r c) => prompt r c
  | .ok (.watch w r limit level) =>
    watch (host fs) s.trace.logFile r limit level w fs
