import JavaDeps.Config.Failure
import JavaDeps.Config.Settings
import JavaDeps.Pattern.Reader
import JavaDeps.Unicode.Property

/-!
# Checking a configuration

Values that would only fail later are rejected once all sources are known. **The first fault in a
fixed order is the one reported.**
-/

namespace JavaDeps.Config

/-- Whether a text has nothing but blanks. -/
def isBlankText (s : String) : Bool := s.toList.all Unicode.isWhiteSpace

/-- Whether a path is among others; spelling does not count. -/
def isAmong (p : Path) (paths : List Path) : Bool := paths.any (·.same p)

/-- What is wrong with the parser section, if anything: the first fault in the order in which the
fields are checked. -/
def ParserConfig.fault? (c : ParserConfig) : Option Failure :=
  match c.command with
  | [] => some (.invalid "parser.command" "must name a program")
  | program :: _ =>
    if isBlankText program then some (.invalid "parser.command" "program cannot be blank")
    else if c.poolSize = 0 then some (.invalid "parser.pool_size" "must be at least 1")
    else if c.requestTimeout.millis = 0 then
      some (.invalid "parser.request_timeout_ms" "must be non-zero")
    else if c.shutdownTimeout.millis = 0 then
      some (.invalid "parser.shutdown_timeout_ms" "must be non-zero")
    else if c.logLevel.any isBlankText then some (.invalid "parser.log_level" "cannot be blank")
    else none

/-- A generated root that is a root of another kind too. -/
def ResolverConfig.sharedGenerated? (c : ResolverConfig) : Option Path :=
  c.generatedRoots.find? fun root ↦ isAmong root c.sourceRoots || isAmong root c.testRoots

/-- A test root that is a source root too. -/
def ResolverConfig.sharedTest? (c : ResolverConfig) : Option Path :=
  c.testRoots.find? (isAmong · c.sourceRoots)

/-- What is wrong with the roots, if anything: there must be source roots, and no root may be of two
kinds. Roots are compared by their components, without being cleaned. -/
def ResolverConfig.rootFault? (c : ResolverConfig) : Option Failure :=
  if c.sourceRoots.isEmpty then
    some (.invalid "resolver.source_roots" "at least one root is required")
  else
    match c.sharedGenerated?, c.sharedTest? with
    | some root, _ =>
      some (.invalid "resolver.generated_roots" (root.text ++ " is also a source or test root"))
    | none, some root =>
      some (.invalid "resolver.test_roots" (root.text ++ " is also a source root"))
    | none, none => none

/-- The first of some texts that is no pattern. -/
def badPattern? (patterns : List String) : Option String :=
  patterns.find? fun text ↦ (Pattern.parse? text).isNone

/-- What is wrong with the resolver section, if anything: its roots are checked first, then its
prefixes, and its patterns last. -/
def ResolverConfig.fault? (c : ResolverConfig) : Option Failure :=
  match c.rootFault? with
  | some fault => some fault
  | none =>
    if c.jdkPrefixes.any isBlankText then
      some (.invalid "resolver.jdk_prefixes" "prefixes cannot be empty")
    else (badPattern? c.runtime.patterns).map .pattern

/-- Checks a configuration, the parser first. What passes can be turned into the options of a pool
and of a resolver. -/
def validate (c : Config) : Except Failure Unit :=
  match c.parser.fault?.or c.resolver.fault? with
  | some fault => .error fault
  | none => .ok ()

end JavaDeps.Config
