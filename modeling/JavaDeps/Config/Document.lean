import JavaDeps.Config.Section
import JavaDeps.Config.Settings
import JavaDeps.Toml.Document
import JavaDeps.Toml.Writer

/-!
# Configurations as TOML

The fields of a configuration, and the document that says all of them. **Reading that document gives
the configuration back.**
-/

namespace JavaDeps.Config

open Toml (Value Section Written)

/-! ### Reading -/

/-- Reads a path. -/
def readPath (v : Value) : Reading Path := (readText v).map Path.mk

/-- Reads a format of log lines. -/
def readLogFormat : Value → Reading LogFormat
  | .text "compact" => .ok .compact
  | .text "full" => .ok .full
  | .text _ => .error ⟨.word, []⟩
  | _ => .error ⟨.type, []⟩

/-- The fields of the parser section. -/
def parserFields : List (Field ParserConfig) :=
  [.of "command" (readList readText) fun v s ↦ { s with command := v },
    .of "pool_size" readNat fun v s ↦ { s with poolSize := v },
    .of "request_timeout_ms" readNat fun v s ↦ { s with requestTimeout := ⟨v⟩ },
    .of "shutdown_timeout_ms" readNat fun v s ↦ { s with shutdownTimeout := ⟨v⟩ },
    .of "log_level" readText fun v s ↦ { s with logLevel := some v }]

/-- The fields of the runtime section. -/
def runtimeFields : List (Field RuntimeConfig) :=
  [.of "reflection" readBool fun v s ↦ { s with reflection := v },
    .of "patterns" (readList readText) fun v s ↦ { s with patterns := v }]

/-- The fields of the resolver section. -/
def resolverFields : List (Field ResolverConfig) :=
  [.of "lock_file" readPath fun v s ↦ { s with lockFile := some v },
    .of "jdk_prefixes" (readList readText) fun v s ↦ { s with jdkPrefixes := v },
    .of "source_roots" (readList readPath) fun v s ↦ { s with sourceRoots := v },
    .of "test_roots" (readList readPath) fun v s ↦ { s with testRoots := v },
    .of "generated_roots" (readList readPath) fun v s ↦ { s with generatedRoots := v },
    .of "modules" (readList readPath) fun v s ↦ { s with modules := v },
    .of "exclude" (readList readText) fun v s ↦ { s with exclude := v },
    .section "runtime" runtimeFields {} fun v s ↦ { s with runtime := v }]

/-- The fields of the settings section. -/
def generalFields : List (Field GeneralConfig) :=
  [.of "log_level" readText fun v s ↦ { s with logLevel := some v },
    .of "log_format" readLogFormat fun v s ↦ { s with logFormat := v }]

/-- The sections of a configuration, on a machine with so many cores. -/
def sections (cores : Nat) : List (Field Config) :=
  [.section "parser" parserFields (.standard cores) fun v s ↦ { s with parser := v },
    .section "resolver" resolverFields {} fun v s ↦ { s with resolver := v },
    .section "settings" generalFields {} fun v s ↦ { s with settings := v }]

/-- The configuration that a value holds, with the defaults of a machine with so many cores for what
it does not say. -/
def read (cores : Nat) (v : Value) : Reading Config :=
  readSection (sections cores) v (.standard cores)

/-! ### Writing -/

/-- The entry for an optional text. -/
def optional (key : String) (v : Option String) : List (String × Written) :=
  v.toList.map fun s ↦ (key, .text s)

/-- A list of paths. -/
def writtenPaths (paths : List Path) : Written := .list (paths.map (·.text))

/-- The entries of the parser section. -/
def ParserConfig.written (c : ParserConfig) : List (String × Written) :=
  [("command", .list c.command), ("pool_size", .nat c.poolSize),
    ("request_timeout_ms", .nat c.requestTimeout.millis),
    ("shutdown_timeout_ms", .nat c.shutdownTimeout.millis)] ++ optional "log_level" c.logLevel

/-- The entries of the resolver section. -/
def ResolverConfig.written (c : ResolverConfig) : List (String × Written) :=
  optional "lock_file" (c.lockFile.map (·.text)) ++
    [("jdk_prefixes", .list c.jdkPrefixes), ("source_roots", writtenPaths c.sourceRoots),
      ("test_roots", writtenPaths c.testRoots), ("generated_roots", writtenPaths c.generatedRoots),
      ("modules", writtenPaths c.modules), ("exclude", .list c.exclude)]

/-- The entries of the runtime section. -/
def RuntimeConfig.written (c : RuntimeConfig) : List (String × Written) :=
  [("reflection", .bool c.reflection), ("patterns", .list c.patterns)]

/-- The entries of the settings section. -/
def GeneralConfig.written (c : GeneralConfig) : List (String × Written) :=
  optional "log_level" c.logLevel ++ [("log_format", .text c.logFormat.text)]

/-- The sections of a written configuration. -/
def written (c : Config) : List Section :=
  [⟨"parser", c.parser.written⟩, ⟨"resolver", c.resolver.written⟩,
    ⟨"resolver.runtime", c.resolver.runtime.written⟩, ⟨"settings", c.settings.written⟩]

/-- The document of a configuration. -/
def text (c : Config) : String := Toml.writeSections (written c)

end JavaDeps.Config
