import CallAssist.Catalog.Load

/-!
Checking catalogues, several at a time. Each check looks once whether the work was called off, then
loads its catalogue and writes down what it found, in its own place of one list; at most a given
number of checks run at once.
-/

namespace CallAssist

/-- What the check of one catalogue found: how many functions it has, or why it does not load. -/
structure Verdict where
  path : Bytes
  functions : Nat
  error : Bytes
  deriving DecidableEq, Repr

namespace Verdict

def isOk (v : Verdict) : Bool := v.error.isEmpty

def blank : Verdict := ⟨[], 0, []⟩

def opened (path : Bytes) : Verdict := ⟨path, 0, []⟩

def note (r : Except LoadError Catalog) (v : Verdict) : Verdict :=
  match r with
  | .ok c => { v with functions := c.size }
  | .error e => { v with error := e.message }

end Verdict

namespace Validation

/-- How far the check of one path has come. -/
inductive Stage where
  | waiting
  | started
  | loading
  | calledOff
  | done
  deriving DecidableEq, Repr

namespace Stage

def isRunning : Stage → Bool
  | .started | .loading => true
  | _ => false

def isOver : Stage → Bool
  | .calledOff | .done => true
  | _ => false

end Stage

/-- Checks under way, in the order of their paths, and the places they write in. `cancelled` tells
whether the work was called off, and `broken` whether a load was the end of the program. -/
structure Checks where
  tasks : List (Bytes × Stage)
  places : List Verdict
  cancelled : Bool
  broken : Bool
  deriving DecidableEq, Repr

/-- One thing that can happen next: the first waiting check is started, a started one looks whether
the work was called off, one that loads finishes, or the work is called off. -/
inductive Move where
  | start
  | look (i : Nat)
  | finish (i : Nat)
  | cancel
  deriving DecidableEq, Repr

/-- What the checks come to: verdicts, or nothing because the work was called off or the program
ended. -/
inductive Outcome where
  | verdicts (vs : List Verdict)
  | calledOff
  | brokeDown
  deriving DecidableEq, Repr

namespace Checks

def ofPaths (paths : List Bytes) : Checks :=
  ⟨paths.map fun p => (p, .waiting), paths.map fun _ => .blank, false, false⟩

def running (c : Checks) : Nat := c.tasks.countP (·.2.isRunning)

/-- Whether one more check may run. A limit of zero or below is none. -/
def hasRoom (limit : Int) (c : Checks) : Bool := limit ≤ 0 || (c.running : Int) < limit

def startFirst : List (Bytes × Stage) → List (Bytes × Stage)
  | [] => []
  | (p, .waiting) :: ts => (p, .started) :: ts
  | t :: ts => t :: startFirst ts

def advance (c : Checks) (i : Nat) (path : Bytes) (stage : Stage) : Checks :=
  { c with tasks := c.tasks.set i (path, stage) }

/-- The checks after a move; a move that cannot be made changes nothing. -/
def step (fs : Files) (limit : Int) (c : Checks) (m : Move) : Checks :=
  if c.broken then c
  else match m with
    | .cancel => { c with cancelled := true }
    | .start => if c.hasRoom limit then { c with tasks := startFirst c.tasks } else c
    | .look i => match c.tasks[i]? with
      | some (p, .started) =>
        if c.cancelled then c.advance i p .calledOff
        else { c.advance i p .loading with places := c.places.set i (.opened p) }
      | _ => c
    | .finish i => match c.tasks[i]? with
      | some (p, .loading) =>
        if Catalog.breaksDown fs p then { c with broken := true }
        else { c.advance i p .done with
          places := c.places.modify i (Verdict.note (Catalog.load fs p)) }
      | _ => c

def run (fs : Files) (limit : Int) (c : Checks) (moves : List Move) : Checks :=
  moves.foldl (step fs limit) c

/-- What the checks came to, once they are all over or the program has ended. A check that was
called off spoils the rest. -/
def outcome? (c : Checks) : Option Outcome :=
  if c.broken then some .brokeDown
  else if c.tasks.all (·.2.isOver) then
    some (if c.tasks.any (·.2 == .calledOff) then .calledOff else .verdicts c.places)
  else none

end Checks

def inOrder (n : Nat) : List Move :=
  (List.range n).flatMap fun i => [.start, .look i, .finish i]

/-- Paths checked one after the other; `cancelled` tells whether the work was called off before it
began. -/
def outcome (fs : Files) (paths : List Bytes) (limit : Int) (cancelled : Bool) : Outcome :=
  let moves := (if cancelled then [.cancel] else []) ++ inOrder paths.length
  ((Checks.ofPaths paths).run fs limit moves).outcome?.getD .calledOff

end Validation

end CallAssist
