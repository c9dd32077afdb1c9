import JavaDeps.CommandLine.Level
import JavaDeps.Config.Loading

/-!
# Command lines

A command line is read at two levels, in front of the command and after it. Each level is checked by
itself, the inner one first; **a global option given at both has the inner value**.
-/

namespace JavaDeps.CommandLine

/-- What to resolve, and how: which units, against which lock file, with how many workers, and what
to do with the report. -/
structure ResolveArgs where
  lockFile : Option Path := none
  /-- The directories to resolve; all if there are none. -/
  units : List Path := []
  /-- Where to write the report. -/
  json : Option Path := none
  /-- Whether an unclean report is a failure. -/
  strict : Bool := false
  inProcess : Bool := false
  jobs : Option Nat := none
  workerLog : Option String := none
  deriving DecidableEq, Repr

/-- What to parse, and how: one file, by a worker or without any. -/
structure ParseArgs where
  file : Path
  inProcess : Bool := false
  deriving DecidableEq, Repr

/-- What to do with the configuration. -/
structure ConfigArgs where
  /-- Whether to check it and print nothing. -/
  check : Bool := false
  deriving DecidableEq, Repr

/-- A command with its arguments, as the command line gives them. -/
inductive Command where
  | resolve (args : ResolveArgs)
  | parse (args : ParseArgs)
  | config (args : ConfigArgs)
  deriving DecidableEq, Repr

/-- The settings that a command overrides: those on workers and on the lock file, which only the
command to resolve has options for. -/
def Command.overrides : Command → Config.Overrides
  | resolve args =>
    { poolSize := args.jobs, workerLogLevel := args.workerLog, lockFile := args.lockFile }
  | parse _ | config _ => {}

/-- A command line: the options that every command has, and the command with its own. -/
structure Invocation where
  verbose : Bool := false
  quiet : Bool := false
  noColor : Bool := false
  workspace : Path := ⟨"."⟩
  config : Option Path := none
  command : Command
  deriving DecidableEq, Repr

/-! ### Values of options -/

/-- The values of an option, in order. -/
def Level.values (l : Level) (purpose : Purpose) : List Given :=
  (l.settled.filter (·.1 == purpose)).map (·.2)

/-- The paths among values. -/
def Given.path? : Given → Option Path
  | path p => some p
  | _ => none

/-- The text of a value. -/
def Given.text? : Given → Option String
  | text s => some s
  | _ => none

/-- The number of a value. -/
def Given.number? : Given → Option Nat
  | number n => some n
  | _ => none

/-- The path given for an option. -/
def Level.pathFor? (l : Level) (purpose : Purpose) : Option Path :=
  (l.values purpose).findSome? Given.path?

/-! ### Reading -/

/-- The command that a level describes. -/
def CommandName.command (name : CommandName) (l : Level) : Command :=
  match name with
  | .resolve =>
    .resolve
      { lockFile := l.pathFor? .lockFile
        units := (l.values .unit).filterMap Given.path?
        json := l.pathFor? .json
        strict := l.has .strict
        inProcess := l.has .inProcess
        jobs := (l.values .jobs).findSome? Given.number?
        workerLog := (l.values .workerLog).findSome? Given.text? }
  | .parse => .parse { file := (l.pathFor? .file).getD ⟨""⟩, inProcess := l.has .inProcess }
  | .config => .config { check := l.has .check }

/-- The command line of two levels. -/
def Invocation.ofLevels (name : CommandName) (outer inner : Level) : Invocation where
  verbose := inner.has .verbose || outer.has .verbose
  quiet := inner.has .quiet || outer.has .quiet
  noColor := inner.has .noColor || outer.has .noColor
  workspace := ((inner.pathFor? .workspace).or (outer.pathFor? .workspace)).getD ⟨"."⟩
  config := (inner.pathFor? .config).or (outer.pathFor? .config)
  command := name.command inner

/-- Reads a command line: options, then a command, then options and words of the command. Options
for every command may stand on either side. -/
def Invocation.parse (argv : List String) : Except UsageFault Invocation := do
  match ← Level.words { spec := outerLevel } argv with
  | (outer, none) =>
    let _ ← outer.finish false
    throw .missingCommand
  | (outer, some (name, rest)) =>
    let (inner, _) ← Level.words { spec := name.level } rest
    let inner ← inner.finish false
    return .ofLevels name (← outer.finish true) inner

end JavaDeps.CommandLine
