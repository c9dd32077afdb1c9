import JavaDeps.Config.Failure
import JavaDeps.Config.Settings
import JavaDeps.Pool.Options
import JavaDeps.Resolve.Resolver

/-!
# From settings to options

What a configuration says to the parts of the program. **A configuration that was checked says it to
all of them**: nothing here fails on it.
-/

namespace JavaDeps.Config

/-- The command that starts workers, with the level of their log if one is set. It fails if the
program has no name. -/
def workerCommand (c : Config) : Except Failure Worker.Command :=
  match Worker.Command.ofArgv c.parser.command with
  | .error failure => .error (.invalid "parser.command" failure.message)
  | .ok command => .ok (c.parser.logLevel.elim command command.logLevel)

/-- The options of the pool, which are checked once more where the pool is started. -/
def poolOptions (c : Config) : Except Failure Pool.Options :=
  c.workerCommand.map fun command ↦
    { command, size := c.parser.poolSize, requestTimeout := c.parser.requestTimeout
      shutdownTimeout := c.parser.shutdownTimeout }

/-- The options of the resolver. It fails with the first of the patterns that cannot be read. -/
def resolverOptions (c : Config) : Except Failure Resolve.Options :=
  match Resolve.RuntimeRule.ofTexts c.resolver.runtime.reflection c.resolver.runtime.patterns with
  | .error text => .error (.pattern text)
  | .ok runtime => .ok { platform := ⟨c.resolver.jdkPrefixes⟩, runtime }

/-- Paths as they are seen from a root: those that are absolute stay, and the others are below
it. -/
def anchored (root : Path) (paths : List Path) : List Path := paths.map root.join

/-- The lock file, as it is seen from a root. -/
def lockFile? (c : Config) (root : Path) : Option Path := c.resolver.lockFile.map root.join

/-- The source roots, as they are seen from a root. -/
def sourceRoots (c : Config) (root : Path) : List Path := anchored root c.resolver.sourceRoots

/-- The test roots, as they are seen from a root. -/
def testRoots (c : Config) (root : Path) : List Path := anchored root c.resolver.testRoots

/-- The generated roots, as they are seen from a root. -/
def generatedRoots (c : Config) (root : Path) : List Path := anchored root c.resolver.generatedRoots

/-- Whether directories of a name are never entered. -/
def isExcluded (c : Config) (name : String) : Bool := c.resolver.exclude.contains name

end JavaDeps.Config
