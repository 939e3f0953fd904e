import CallAssist.Catalog.Load
import CallAssist.Command.Flag
import CallAssist.Settings.Basic
import CallAssist.Watcher

/-!
The ways a command can fail, and what is said about them.
-/

namespace CallAssist

namespace Command

/-- Why a command failed. A breakdown ends the program, so nobody is told about it. -/
inductive Failure where
  | unknownCommand (word program : Bytes) (similar : List Bytes)
  | flag (e : FlagError)
  | tooMany (most given : Nat)
  | tooFew (least given : Nat)
  | wrongCount (wanted given : Nat)
  | badArgument (word command : Bytes)
  | settings (e : Settings.Error)
  | logDirectory (e : FileError)
  | logFile (path : Bytes) (e : FileError)
  | load (e : LoadError)
  | invalidCatalogs (failed total : Nat)
  | lineMissing
  | cancelled
  | watch (e : WatchError)
  | breakdown
  deriving Repr

namespace Failure

def hint (similar : List Bytes) : Bytes :=
  if similar.isEmpty then []
  else utf8 "\n\nDid you mean this?\n" ++ similar.flatMap fun n => utf8 "\t" ++ n ++ utf8 "\n"

def message : Failure → Bytes
  | .unknownCommand word program similar =>
    utf8 "unknown command " ++ Bytes.quoted word ++ utf8 " for " ++ Bytes.quoted program ++
      hint similar
  | .flag e => e.message
  | .tooMany most given =>
    utf8 "accepts at most " ++ Bytes.ofNat most ++ utf8 " arg(s), received " ++ Bytes.ofNat given
  | .tooFew least given =>
    utf8 "requires at least " ++ Bytes.ofNat least ++ utf8 " arg(s), only received " ++
      Bytes.ofNat given
  | .wrongCount wanted given =>
    utf8 "accepts " ++ Bytes.ofNat wanted ++ utf8 " arg(s), received " ++ Bytes.ofNat given
  | .badArgument word command =>
    utf8 "invalid argument " ++ Bytes.quoted word ++ utf8 " for " ++ Bytes.quoted command
  | .settings e => e.message
  | .logDirectory e => utf8 "failed to create log directory: " ++ e.message
  | .logFile path e => utf8 "failed to open log file " ++ path ++ utf8 ": " ++ e.message
  | .load e => e.message
  | .invalidCatalogs failed total =>
    Bytes.ofNat failed ++ utf8 " of " ++ Bytes.ofNat total ++ utf8 " catalogs invalid"
  | .lineMissing => utf8 "--line is required unless --interactive is set"
  | .cancelled => utf8 "context canceled"
  | .watch e => e.message
  | .breakdown => utf8 "reading broke down"

def isBreakdown : Failure → Bool
  | .settings e => e.isBreakdown
  | .load e => e.isBreakdown
  | .breakdown => true
  | _ => false

end Failure

end Command

end CallAssist
