import JavaDeps.Config.Failure
import JavaDeps.Files.Tree
import JavaDeps.Maven.ClassIndex
import JavaDeps.Pool.Failure

/-!
# How a command fails

A command that fails says why in one text, and with a hint where there is something to be done about
it.
-/

namespace JavaDeps.CommandLine

/-- Why a command failed. Every part of the program has its own failures, and a command adds only
those that come of its own work. -/
inductive Failure where
  | config (failure : Config.Failure)
  /-- The lock file cannot be read. -/
  | lockUnreadable (path : Path) (fault : Files.Fault)
  /-- The lock file is read and makes no index. -/
  | lock (error : Maven.LockError)
  /-- There are no workers for a run over units. -/
  | poolStart (failure : Pool.ParseFailure)
  /-- A file has no facts. -/
  | parser (failure : Pool.ParseFailure)
  /-- A file cannot be read or written. -/
  | file (path : Path) (fault : Files.Fault)
  | argument (text : String)
  /-- A strict run has something to complain about. -/
  | unclean (unresolved ambiguities skipped : Nat)
  deriving DecidableEq, Repr

/-- A text with a hint. -/
def withHint (text hint : String) : String := text ++ "\n\nHint: " ++ hint

/-- The text for a lock file that cannot be used. -/
def lockText (reason : String) : String :=
  withHint ("Lock file error: " ++ reason) "Check `resolver.lock_file` or pass --lock-file"

/-- The text of a failure, where it does not depend on how a reader words its faults. -/
def Failure.message? : Failure → Option String
  | config failure => failure.message?.map ("Configuration error: " ++ ·)
  | lockUnreadable path fault =>
    some (lockText ("failed to read lock file " ++ path.text ++ ": " ++ fault.message))
  | lock error =>
    match error with
    | .file (.json _) => none
    | error => error.message?.map lockText
  | poolStart failure =>
    some (withHint ("Failed to start parser workers: " ++ failure.message)
      "Check `parser.command` or use --in-process")
  | parser failure => some ("Parser error: " ++ failure.message)
  | file path .missing => some ("File not found: " ++ path.text)
  | file path fault => some ("I/O error on " ++ path.text ++ ": " ++ fault.message)
  | argument text => some ("Invalid argument: " ++ text)
  | unclean unresolved ambiguities skipped =>
    some (withHint
      (toString unresolved ++ " unresolved symbol(s), "
        ++ toString ambiguities ++ " ambiguity(ies), "
        ++ toString skipped ++ " skipped unit(s)")
      "Inspect the warnings above or rerun with --json for details")

end JavaDeps.CommandLine
