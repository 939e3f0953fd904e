import CallAssist.Files
import CallAssist.Log.Record
import CallAssist.Render.Basic

/-!
What a program runs in, and what it leaves there.
-/

namespace CallAssist

/-- What a program runs in: files, an environment, what is known of the output stream, and whether
the work has been called off. -/
structure Host where
  files : Files
  env : List (Bytes × Bytes) := []
  terminal : Bool := false
  colors : Bool := false
  cancelled : Bool := false

/-- Something a program put out: records, and then texts for its two streams. -/
structure Report where
  records : List Record := []
  printed : Printed := .empty

namespace Report

def logText (stamp : Bytes) (r : Report) : Bytes := r.records.flatMap fun x => stamp ++ x.line

end Report

/-- What a program did: its reports in order, the file its records went to, if not to the error
stream, and its files before any record was written. `diagnostics` is a text that goes to the error
stream before all reports, past the command that reports. -/
structure Trace where
  reports : List Report
  logFile : Option Bytes
  files : Files
  diagnostics : Bytes := []

namespace Trace

def stdout (t : Trace) : Bytes := t.reports.flatMap (·.printed.out)

/-- What the reports put on the error stream; each record on it stands behind `stamp`. -/
def reportedErrors (stamp : Bytes) (t : Trace) : Bytes :=
  t.reports.flatMap fun r =>
    (if t.logFile.isSome then [] else r.logText stamp) ++ r.printed.err

def stderr (stamp : Bytes) (t : Trace) : Bytes := t.diagnostics ++ t.reportedErrors stamp

/-- The files with the records written; each record stands behind `stamp`. -/
def filesAfter (stamp : Bytes) (t : Trace) : Files :=
  match t.logFile with
  | none => t.files
  | some path => t.files.append path (t.reports.flatMap (·.logText stamp))

end Trace

end CallAssist
