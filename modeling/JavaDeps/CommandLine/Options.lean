import JavaDeps.Path

/-!
# Options and commands

What may stand on the command line: options that take a value or none, and commands with options of
their own. **Global options** are allowed before a command and after it.
-/

namespace JavaDeps.CommandLine

/-- What an option is for. -/
inductive Purpose where
  | help
  | version
  | verbose
  | quiet
  | noColor
  | workspace
  | config
  | lockFile
  | unit
  | json
  | strict
  | inProcess
  | jobs
  | workerLog
  | check
  /-- The file to parse, which has no name of its own on the command line. -/
  | file
  deriving DecidableEq, Repr

/-- What an option takes. -/
inductive Takes where
  | nothing
  | text
  /-- A text that is not empty. -/
  | path
  | number
  deriving DecidableEq, Repr

/-- An option: what it is for, the names that it goes by, what it takes, and whether it may be given
again. -/
structure OptionSpec where
  purpose : Purpose
  short : Option Char := none
  long : String
  takes : Takes := .nothing
  /-- Whether it may be given again. -/
  repeatable : Bool := false
  deriving DecidableEq, Repr

/-- Options for every command. -/
def globalOptions : List OptionSpec :=
  [⟨.verbose, some 'v', "verbose", .nothing, false⟩, ⟨.quiet, some 'q', "quiet", .nothing, false⟩,
    ⟨.noColor, none, "no-color", .nothing, false⟩,
    ⟨.workspace, some 'w', "workspace", .path, false⟩,
    ⟨.config, some 'c', "config", .path, false⟩]

/-- The option that asks for help. -/
def helpOption : OptionSpec := ⟨.help, some 'h', "help", .nothing, false⟩

/-- The option that asks for the version. -/
def versionOption : OptionSpec := ⟨.version, some 'V', "version", .nothing, false⟩

/-- The option to parse without workers. -/
def inProcessOption : OptionSpec := ⟨.inProcess, none, "in-process", .nothing, false⟩

/-- The commands. -/
inductive CommandName where
  | resolve
  | parse
  | config
  deriving DecidableEq, Repr

namespace CommandName

/-- The word for a command. -/
def text : CommandName → String
  | resolve => "resolve"
  | parse => "parse"
  | config => "config"

/-- The command of a word. -/
def ofText? (word : String) : Option CommandName :=
  [resolve, parse, config].find? (·.text == word)

/-- The options of a command alone. -/
def ownOptions : CommandName → List OptionSpec
  | resolve =>
    [⟨.lockFile, some 'l', "lock-file", .path, false⟩, ⟨.unit, some 'u', "unit", .path, true⟩,
      ⟨.json, none, "json", .path, false⟩, ⟨.strict, none, "strict", .nothing, false⟩,
      inProcessOption, ⟨.jobs, some 'j', "jobs", .number, false⟩,
      ⟨.workerLog, none, "worker-log", .text, false⟩]
  | parse => [inProcessOption]
  | config => [⟨.check, none, "check", .nothing, false⟩]

end CommandName

/-- What may stand at one level of the command line: in front of a command, or after it. -/
structure LevelSpec where
  options : List OptionSpec
  /-- The word that may stand alone. -/
  positional : Option OptionSpec := none
  /-- Whether a command is to follow. -/
  takesCommand : Bool := false
  deriving DecidableEq, Repr

/-- What may stand in front of a command. -/
def outerLevel : LevelSpec where
  options := globalOptions ++ [helpOption, versionOption]
  takesCommand := true

/-- What may stand after a command. -/
def CommandName.level (c : CommandName) : LevelSpec where
  options := c.ownOptions ++ globalOptions ++ [helpOption]
  positional := if c = .parse then some ⟨.file, none, "", .path, false⟩ else none

end JavaDeps.CommandLine
