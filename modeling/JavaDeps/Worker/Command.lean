import JavaDeps.Pool.Failure
import JavaDeps.Unicode.Property

/-!
# Worker commands

How a worker is started: a program, its arguments and variables of its environment. **A variable
that is set again moves to the end.**
-/

namespace JavaDeps.Worker

/-- A command that starts a worker: a program, its arguments, and the variables that are set for it
beside those of the environment. -/
structure Command where
  program : String
  args : List String := []
  /-- The variables set for the worker, in order. -/
  env : List (String × String) := []
  deriving DecidableEq, Repr

namespace Command

/-- The command of an argument vector, whose head names the program. -/
def ofArgv : List String → Except Pool.ParseFailure Command
  | [] => .error (.invalidConfig "worker command is empty")
  | program :: args =>
    if program.toList.all Unicode.isWhiteSpace then
      .error (.invalidConfig "worker command is empty")
    else .ok { program, args }

/-- Sets a variable for the worker. -/
def setEnv (c : Command) (name value : String) : Command :=
  { c with env := c.env.filter (·.1 != name) ++ [(name, value)] }

/-- The variable that holds the log filter of a worker. -/
def logVariable : String := "JVDEPS_PARSER_LOG"

/-- Sets the log filter of the worker. -/
def logLevel (c : Command) (level : String) : Command := c.setEnv logVariable level

/-- The command as it is shown: its words, separated by blanks. -/
def text (c : Command) : String := " ".intercalate (c.program :: c.args)

end Command

end JavaDeps.Worker
