import JavaDeps.Path
import JavaDeps.Pool.Options
import JavaDeps.Resolve.Platform

/-!
# Configuration

All that can be configured, in sections. Every setting has a default, so that an empty document is a
configuration. One default depends on the machine: the number of workers, by that of its cores.
-/

namespace JavaDeps

namespace Config

/-- The program of the reference worker. -/
def referenceWorker : String := "jvdeps-parser-worker"

/-- How parser workers are run: the command that starts them, how many there are, how long they may
take, and what they log. -/
structure ParserConfig where
  /-- The argument vector of a worker. -/
  command : List String := [referenceWorker]
  /-- The number of workers. -/
  poolSize : Nat
  requestTimeout : Duration := ⟨10000⟩
  shutdownTimeout : Duration := ⟨2000⟩
  /-- The log filter of the workers. -/
  logLevel : Option String := none
  deriving DecidableEq, Repr

/-- How parser workers are run on a machine with so many cores, unless something else is said. -/
def ParserConfig.standard (cores : Nat) : ParserConfig := { poolSize := Pool.defaultSize cores }

/-- Which names are needed only at run time: whether string literals are looked at, and the patterns
of the other names. -/
structure RuntimeConfig where
  /-- Whether names in string literals count. -/
  reflection : Bool := true
  patterns : List String := []
  deriving DecidableEq, Repr

/-- Where sources are, what symbols are resolved against, and which directories are folded or left
out. -/
structure ResolverConfig where
  lockFile : Option Path := none
  jdkPrefixes : List String := Resolve.Platform.standard.prefixes
  sourceRoots : List Path := [⟨"."⟩]
  testRoots : List Path := []
  generatedRoots : List Path := []
  /-- Directories that take in the units below them. -/
  modules : List Path := []
  /-- Names of directories that are never entered. -/
  exclude : List String := [".git", "bazel-out", "target", "build"]
  runtime : RuntimeConfig := {}
  deriving DecidableEq, Repr

/-- How much a log line shows. -/
inductive LogFormat where
  | compact
  | full
  deriving DecidableEq, Repr

/-- The word for a format. -/
def LogFormat.text : LogFormat → String
  | compact => "compact"
  | full => "full"

/-- Settings of the command line tool itself. -/
structure GeneralConfig where
  logLevel : Option String := none
  logFormat : LogFormat := .compact
  deriving DecidableEq, Repr

end Config

/-- A configuration, in three sections. Every field of them has a default, so that an empty document
is a configuration, too. -/
structure Config where
  parser : Config.ParserConfig
  resolver : Config.ResolverConfig := {}
  settings : Config.GeneralConfig := {}
  deriving DecidableEq, Repr

/-- The configuration of an empty document, on a machine with so many cores. -/
def Config.standard (cores : Nat) : Config := { parser := .standard cores }

end JavaDeps
