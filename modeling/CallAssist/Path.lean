import CallAssist.Text.Bytes

/-!
Slash-separated file paths, read as texts: nothing here looks at a disk.
-/

namespace CallAssist

namespace Path

def slash : UInt8 := 0x2F

def dot : Bytes := [0x2E]

def dotDot : Bytes := [0x2E, 0x2E]

def isAbsolute : Bytes → Bool
  | 0x2F :: _ => true
  | _ => false

/-- One element taken into account; `kept` holds the elements so far, last first. -/
def cleanStep (rooted : Bool) (kept : List Bytes) (element : Bytes) : List Bytes :=
  if element == [] || element == dot then kept
  else if element == dotDot then
    match kept with
    | [] => if rooted then [] else [dotDot]
    | last :: rest => if last == dotDot then dotDot :: kept else rest
  else element :: kept

/-- The shortest path with the same meaning: no empty or dot elements, no element taken back. -/
def clean (p : Bytes) : Bytes :=
  let rooted := isAbsolute p
  let kept := ((p.split slash).foldl (cleanStep rooted) []).reverse
  let body := Bytes.join [slash] kept
  if rooted then slash :: body else if body.isEmpty then dot else body

/-- Elements joined by a slash and cleaned; empty ones are left out. -/
def join (ps : List Bytes) : Bytes :=
  match ps.filter (!·.isEmpty) with
  | [] => []
  | ps => clean (Bytes.join [slash] ps)

def directory (p : Bytes) : Bytes :=
  match Bytes.cutLast slash p with
  | none => dot
  | some (before, _) => clean (before ++ [slash])

def base (p : Bytes) : Bytes :=
  if p.isEmpty then dot
  else
    let p := (p.reverse.dropWhile (· == slash)).reverse
    if p.isEmpty then [slash]
    else match Bytes.cutLast slash p with
      | none => p
      | some (_, last) => last

/-- The part of the last element from its last point on; empty when it has none. -/
def extension (p : Bytes) : Bytes :=
  let last := match Bytes.cutLast slash p with
    | none => p
    | some (_, last) => last
  match Bytes.cutLast 0x2E last with
  | none => []
  | some (_, after) => 0x2E :: after

def absolute (cwd p : Bytes) : Bytes := if isAbsolute p then clean p else join [cwd, p]

end Path

end CallAssist
