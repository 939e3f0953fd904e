import CallAssist.Files
import CallAssist.Log.Record

/-!
Waiting for files to change. Changes are collected until a while has passed without one; then they
are handed on as one batch. Directories are watched rather than files, so that a file saved by
renaming another one over it is seen.
-/

namespace CallAssist

/-- What happened to a file; several things may be told at once. -/
structure FileChange where
  created : Bool := false
  removed : Bool := false
  written : Bool := false
  renamed : Bool := false
  touched : Bool := false
  deriving DecidableEq, Repr

namespace FileChange

def creation : FileChange := { created := true }

def writing : FileChange := { written := true }

def removal : FileChange := { removed := true }

/-- What happened to the file at a path between two looks at it. -/
def between (before after : Files) (path : Bytes) : Option FileChange :=
  match before.has path, after.has path with
  | false, false => none
  | false, true => some .creation
  | true, false => some .removal
  | true, true =>
    if (before.read path).toOption == (after.read path).toOption then none else some .writing

def isNews (c : FileChange) : Bool := c.created || c.written

def label (c : FileChange) : Bytes :=
  let names := [(c.created, "CREATE"), (c.removed, "REMOVE"), (c.written, "WRITE"),
    (c.renamed, "RENAME"), (c.touched, "CHMOD")]
  match names.filterMap fun (b, n) => if b then some (utf8 n) else none with
  | [] => utf8 "[no events]"
  | ns => Bytes.join (utf8 "|") ns

end FileChange

/-- A directory that cannot be watched. -/
structure WatchError where
  directory : Bytes
  cause : FileCause
  deriving DecidableEq, Repr

def WatchError.message (e : WatchError) : Bytes :=
  utf8 "failed to watch " ++ e.directory ++ utf8 ": " ++ e.cause.message

/-- A watch over files. `tracked` maps cleaned absolute paths to the paths as given, `pending` holds
the given paths of the files that changed since the last batch, and `armed` says whether the end of
a quiet while is being waited for. -/
structure Watcher where
  tracked : List (Bytes × Bytes)
  pending : List Bytes
  armed : Bool
  ended : Bool
  deriving DecidableEq, Repr

namespace Watcher

/-- What a watch can meet: a change of a file, the end of a quiet while, trouble with the watching
itself, or the order to end. -/
inductive Event where
  | change (path : Bytes) (what : FileChange)
  | quiet
  | trouble (text : Bytes)
  | cancel
  deriving DecidableEq, Repr

/-- What one event led to: records, and a batch of changed files. -/
structure Reaction where
  records : List Record
  batch : Option (List Bytes)

/-- A watch over paths read from a working directory; of two paths to one file the later one is
kept. -/
def ofPaths (cwd : Bytes) (paths : List Bytes) : Watcher :=
  ⟨(paths.map fun p => (Path.absolute cwd p, p)).reverse, [], false, false⟩

def directories (cwd : Bytes) (paths : List Bytes) : List Bytes :=
  paths.map fun p => Path.directory (Path.absolute cwd p)

def open? (fs : Files) (paths : List Bytes) : Except WatchError Watcher :=
  match (directories fs.cwd paths).findSome? fun d => match fs.find d with
    | .error c => some ⟨d, c⟩
    | .ok _ => none with
  | some e => .error e
  | none => .ok (ofPaths fs.cwd paths)

def note (w : Watcher) (path : Bytes) : Watcher :=
  { w with
    pending := if w.pending.contains path then w.pending else path :: w.pending
    armed := true }

def step (w : Watcher) (e : Event) : Watcher × Reaction :=
  if w.ended then (w, ⟨[], none⟩)
  else match e with
    | .cancel => ({ w with ended := true }, ⟨[], none⟩)
    | .trouble t => (w, ⟨[.make .warn "Watcher error" [("error", t)]], none⟩)
    | .quiet =>
      if w.armed then
        ({ w with pending := [], armed := false }, ⟨[], some (w.pending.mergeSort Bytes.le)⟩)
      else (w, ⟨[], none⟩)
    | .change path what =>
      match what.isNews, w.tracked.lookup (Path.clean path) with
      | true, some given =>
        (w.note given,
          ⟨[.make .debug "Catalog changed" [("path", given), ("op", what.label)]], none⟩)
      | _, _ => (w, ⟨[], none⟩)

end Watcher

end CallAssist
