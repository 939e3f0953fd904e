import CallAssist.Path

/-!
A snapshot of a file system and a working directory, with the failures that looking up a path can
meet.
-/

namespace CallAssist

/-- Why a path could not be used. -/
inductive FileCause where
  | notFound
  | notDirectory
  | isDirectory
  | exists_
  | invalid
  | nameTooLong
  deriving DecidableEq, Repr

def FileCause.message : FileCause → Bytes
  | .notFound => utf8 "no such file or directory"
  | .notDirectory => utf8 "not a directory"
  | .isDirectory => utf8 "is a directory"
  | .exists_ => utf8 "file exists"
  | .invalid => utf8 "invalid argument"
  | .nameTooLong => utf8 "file name too long"

/-- A failed operation on a path. -/
structure FileError where
  operation : Bytes
  path : Bytes
  cause : FileCause
  deriving DecidableEq, Repr

def FileError.message (e : FileError) : Bytes :=
  e.operation ++ utf8 " " ++ e.path ++ utf8 ": " ++ e.cause.message

/-- What a path names. -/
inductive Node where
  | file (content : Bytes)
  | directory
  deriving DecidableEq, Repr

/-- Files and directories by absolute path, as names from the top, seen from a working
directory. The top directory is always there. -/
structure Files where
  cwd : Bytes
  nodes : List (List Bytes × Node)

namespace Files

def node? (fs : Files) (place : List Bytes) : Option Node :=
  if place.isEmpty then some .directory else fs.nodes.lookup place

def walk (fs : Files) : List Bytes → List Bytes → Except FileCause (List Bytes)
  | place, [] => .ok place
  | place, name :: rest =>
    match fs.node? place with
    | none => .error .notFound
    | some (.file _) => .error .notDirectory
    | some .directory =>
      if name == [] || name == Path.dot then walk fs place rest
      else if name == Path.dotDot then walk fs place.dropLast rest
      else if 255 < name.length then .error .nameTooLong
      else walk fs (place ++ [name]) rest

def names (fs : Files) (p : Bytes) : List Bytes :=
  (if Path.isAbsolute p then p else fs.cwd ++ [Path.slash] ++ p).split Path.slash

/-- The place a path leads to; nothing need be there. -/
def place (fs : Files) (p : Bytes) : Except FileCause (List Bytes) :=
  if p.contains 0 then .error .invalid
  else if p.isEmpty then .error .notFound
  else if 4096 ≤ p.length then .error .nameTooLong
  else fs.walk [] (fs.names p)

def find (fs : Files) (p : Bytes) : Except FileCause Node := do
  let place ← fs.place p
  match fs.node? place with
  | none => .error .notFound
  | some n => .ok n

def has (fs : Files) (p : Bytes) : Bool := (fs.find p).isOk

def read (fs : Files) (p : Bytes) : Except FileError Bytes :=
  match fs.find p with
  | .error c => .error ⟨utf8 "open", p, c⟩
  | .ok .directory => .error ⟨utf8 "read", p, .isDirectory⟩
  | .ok (.file content) => .ok content

def erase (fs : Files) (place : List Bytes) : Files :=
  { fs with nodes := fs.nodes.filter (·.1 != place) }

def put (fs : Files) (place : List Bytes) (n : Node) : Files :=
  { fs with nodes := (place, n) :: (fs.erase place).nodes }

/-- A directory put at a path in a directory that is there. An error names the path as it was
asked for. -/
def makeDirectory (fs : Files) (asked p : Bytes) : Except FileError Files :=
  match fs.place p with
  | .error c => .error ⟨utf8 "mkdir", asked, c⟩
  | .ok place => match fs.node? place with
    | some .directory => .ok fs
    | some (.file _) => .error ⟨utf8 "mkdir", asked, .exists_⟩
    | none => .ok (fs.put place .directory)

/-- A directory at a path, with the directories above it. Each missing one is made in turn, and a
file on the way is an error that names the path down to it. -/
def makeDirectories (fs : Files) (p : Bytes) : Except FileError Files :=
  go fs (p.split Path.slash).length p
where
  go (fs : Files) : Nat → Bytes → Except FileError Files
    | 0, _ => .ok fs
    | fuel + 1, p =>
      match fs.find p with
      | .ok .directory => .ok fs
      | .ok (.file _) => .error ⟨utf8 "mkdir", p, .notDirectory⟩
      | .error _ => do
        let stem := (p.reverse.dropWhile (· == Path.slash)).reverse
        let fs ← match Bytes.cutLast Path.slash stem with
          | some (before, _) => go fs fuel (before ++ [Path.slash])
          | none => .ok fs
        fs.makeDirectory p stem

def openAppend (fs : Files) (p : Bytes) : Except FileError Files :=
  match fs.place p with
  | .error c => .error ⟨utf8 "open", p, c⟩
  | .ok place => match fs.node? place with
    | some .directory => .error ⟨utf8 "open", p, .isDirectory⟩
    | some (.file _) => .ok fs
    | none => match fs.node? place.dropLast with
      | some .directory => .ok (fs.put place (.file []))
      | some (.file _) => .error ⟨utf8 "open", p, .notDirectory⟩
      | none => .error ⟨utf8 "open", p, .notFound⟩

def append (fs : Files) (p text : Bytes) : Files :=
  match fs.place p with
  | .error _ => fs
  | .ok place => match fs.node? place with
    | some (.file content) => fs.put place (.file (content ++ text))
    | _ => fs

end Files

end CallAssist
