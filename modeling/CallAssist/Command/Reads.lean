import CallAssist.Command.Run

/-!
The paths that a run may look at. A snapshot of files has to hold only these; as what is in one file
may lead to another, they are computed from the snapshot had so far.
-/

namespace CallAssist

def Settings.reads (cwd file : Bytes) : List Bytes :=
  if file.isEmpty then
    (Settings.ancestors Settings.searchLimit cwd).flatMap fun d =>
      Settings.fileNames.map fun n => Path.join [d, n]
  else [file]

def Program.reads (p : Program) (h : Host) (args : List Bytes) : List Bytes :=
  match (p.onArguments args).find args with
  | .error _ => []
  | .ok called => match Command.parseFlags (p.allFlags called.command) called.args with
    | .error _ => []
    | .ok flags =>
      let file := (flags.text? "config").getD []
      let named := match (Settings.load h.files h.env file (some flags)).settings with
        | .error _ => []
        | .ok s => [s.catalogPath] ++ if s.logFile.isEmpty then [] else [s.logFile]
      Settings.reads h.files.cwd file ++ named ++ flags.args

def Server.reads (s : Server) (fs : Files) (m : Server.Message) : List Bytes :=
  if m.method == utf8 "initialize" then
    match Server.readInitialize m.params with
    | none => []
    | some p =>
      let s := { s with projectRoot := Uri.toPath p.rootUri }
      let (path, _) := s.chooseCatalog p.catalogPath (s.projectSettings fs).toOption.join
      (Settings.fileNames.map fun n => Path.join [s.projectRoot, n]) ++ [path]
  else []

/-- How many bytes have to come before the frame at the front of a text can be read; as long as its
header is not complete, one more. -/
def Server.missing (t : Bytes) : Nat :=
  match Server.readHeader (t.length + 1) 0 t with
  | .cut => 1
  | .bad _ _ _ => 0
  | .length n rest => if n ≤ 0 || Server.maxLength < n then 0 else n.toNat - rest.length

end CallAssist
