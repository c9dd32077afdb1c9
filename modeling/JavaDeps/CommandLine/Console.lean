import JavaDeps.CommandLine.Failure
import JavaDeps.Terminal.Message

/-!
# What a command does

A command writes results and messages, changes files, and may fail. **What it wrote before it failed
stays written**, so output is part of the state and a failure is not.
-/

namespace JavaDeps.CommandLine

open Terminal (Message)

/-- A piece of output: a result, which goes to the standard output, or a message, which goes to the
standard error. -/
inductive Written where
  | result (text : String)
  | message (m : Message)
  deriving DecidableEq, Repr

/-- What a command sees and changes: files, the variables of the environment, and what has been
written so far. -/
structure Console where
  files : Files
  /-- The variables of the environment. -/
  environment : List (String × String) := []
  /-- Whether output is coloured. -/
  colours : Bool := false
  /-- What has been written, in order. -/
  written : List Written := []

namespace Console

/-- The results on the standard output. -/
def output (c : Console) : String :=
  String.join (c.written.filterMap fun
    | .result text => some text
    | .message _ => none)

/-- The messages on the standard error output. -/
def messages (c : Console) : String :=
  String.join (c.written.filterMap fun
    | .result _ => none
    | .message m => some (m.line c.colours))

/-- Writes something. -/
def write (c : Console) (w : Written) : Console := { c with written := c.written ++ [w] }

end Console

/-- What a command does: it works on a console, and may fail, in which case what it did before stays
done. -/
abbrev ConsoleM := ExceptT Failure (StateM Console)

namespace ConsoleM

/-- Writes a result. -/
def print (text : String) : ConsoleM Unit := modify fun c ↦ c.write (.result text)

/-- Writes a message. -/
def say (m : Message) : ConsoleM Unit := modify fun c ↦ c.write (.message m)

/-- Writes messages in order. -/
def sayAll (messages : List Message) : ConsoleM Unit := messages.forM say

/-- Goes on with what succeeded, or fails. -/
def orFail {ε α : Type} (toFailure : ε → Failure) : Except ε α → ConsoleM α
  | .ok a => return a
  | .error e => throw (toFailure e)

/-- The text of a file. -/
def readText (path : Path) : ConsoleM String := do
  orFail (.file path) ((← get).files.readText path)

/-- Writes a file. -/
def writeText (path : Path) (text : String) : ConsoleM Unit := do
  let files ← orFail (.file path) ((← get).files.write path (Utf8.encode text))
  modify fun c ↦ { c with files }

end ConsoleM

end JavaDeps.CommandLine
