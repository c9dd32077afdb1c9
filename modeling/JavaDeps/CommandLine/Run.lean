import JavaDeps.CommandLine.Console
import JavaDeps.CommandLine.Invocation
import JavaDeps.Config.Use
import JavaDeps.Config.Validation
import JavaDeps.Discovery.Sources
import JavaDeps.Pool.Crowd
import JavaDeps.Resolve.Report
import JavaDeps.Terminal.Report
import JavaDeps.Worker.Host

/-!
# Running commands

Every command starts with the configuration of its workspace. Resolving reports on all units before
it complains about any, so that **a strict run that fails has written all that a lenient one
writes**.

A command runs on a `Machine`, which has some cores and some programs. The reference worker is at
hand on every machine.
-/

namespace JavaDeps.CommandLine

open ConsoleM
open Resolve (RunReport UnitOutcome)

/-- The workspace that a command works on: its root, as the command line gives it, and its
configuration. -/
structure Workspace where
  root : Path
  config : Config

/-- The machine that a command runs on, whose processes have the type `σ` and live in a world of
type `ω`. -/
structure Machine (σ ω : Type) where
  /-- The number of cores. -/
  cores : Nat
  /-- The programs that can be started, beside the reference worker. -/
  programs : Pool.Host σ ω
  /-- The world in which processes are started, with the files and the environment of a command. -/
  world : Files → List (String × String) → ω
  /-- The files of a world. -/
  files : ω → Files

variable {σ ω : Type}

/-! ### Workers -/

/-- The host of workers. The worker that is configured by default is the reference worker. -/
def Machine.host (m : Machine σ ω) : Pool.Host (Worker.Instance σ) ω :=
  Worker.host [Config.referenceWorker] m.programs

/-- Uses a pool and shuts it down. What its workers did to files stays done. -/
def withPool {α : Type} (m : Machine σ ω) (options : Pool.Options)
    (toFailure : Pool.ParseFailure → Failure)
    (body : Pool.State (Worker.Instance σ) ω → α × Pool.State (Worker.Instance σ) ω) :
    ConsoleM α := do
  let console ← get
  let (started, world) :=
    Pool.State.start m.host options (m.world console.files console.environment)
  modify fun c ↦ { c with files := m.files world }
  let pool ← orFail toFailure started
  let (a, pool) := body pool
  let (_, pool) := pool.shutdown m.host
  modify fun c ↦ { c with files := m.files pool.world }
  return a

/-! ### Resolving -/

/-- The units to resolve: those whose directories were named, or all that are found if none was. -/
def chooseUnits (w : Workspace) (args : ResolveArgs) (fs : Files) : Except String Discovery.Units :=
  if args.units.isEmpty then .ok (Discovery.discoverUnits fs w.root w.config)
  else Discovery.explicitUnits fs w.root w.config args.units

/-- The index of published classes, which is empty without a lock file. -/
def loadClasses (w : Workspace) : ConsoleM Maven.ClassIndex := do
  match w.config.lockFile? w.root with
  | some path =>
    let bytes ← orFail (.lockUnreadable path) ((← get).files.read path)
    orFail .lock (Maven.ClassIndex.build bytes)
  | none =>
    say ⟨.warning, "No lock file configured; only workspace symbols will resolve"⟩
    return {}

/-- Resolves units, with the scanner or with a pool of workers. -/
def resolveUnits (m : Machine σ ω) (w : Workspace) (args : ResolveArgs) : ConsoleM RunReport := do
  orFail .config w.config.validate
  let units ← orFail .argument (chooseUnits w args (← get).files)
  if units.isEmpty then say ⟨.warning, "No Java sources found"⟩
  let classes ← loadClasses w
  let read := Discovery.readUnits (← get).files w.root units
  let resolver : Resolve.Resolver :=
    { classes, options := ← orFail .config w.config.resolverOptions }
  let report ←
    if args.inProcess then pure (resolver.execute Parser.scanner read.requests ()).1.1
    else do
      let options ← orFail .config w.config.poolOptions
      withPool m options .poolStart fun pool ↦
        let ((report, _), pool) :=
          resolver.execute (Pool.State.parseAll m.host) read.requests pool
        (report, pool)
  return report.withMore read.unreadable

/-- Writes what there is to say about a unit. -/
def printUnit (u : UnitOutcome) : ConsoleM Unit := do
  if let some r := u.resolution? then print (Terminal.unitBlock (← get).colours r)
  sayAll (Terminal.unitMessages u)

/-- Fails if a strict run has something to complain about. -/
def checkStrict (args : ResolveArgs) (r : RunReport) : ConsoleM Unit := do
  if args.strict && !r.isClean then throw (.unclean r.unresolved r.ambiguities r.skipped)

/-- The command to resolve: units are resolved and printed, the report is summed up and written
where it is wanted, and a strict run fails if it is not clean. -/
def runResolve (m : Machine σ ω) (w : Workspace) (args : ResolveArgs) : ConsoleM Unit := do
  let report ← resolveUnits m w args
  report.units.forM printUnit
  say (Terminal.summaryMessage report)
  if let some path := args.json then
    writeText path (report.json.pretty ++ "\n")
    say ⟨.info, "Wrote " ++ path.text⟩
  checkStrict args report

/-! ### Parsing -/

/-- The facts of a file, from the scanner or from a pool with a single worker. -/
def parseFile (m : Machine σ ω) (w : Workspace) (args : ParseArgs) : ConsoleM Java.Facts := do
  let file : SourceFile := ⟨args.file, ← readText args.file⟩
  if args.inProcess then orFail .parser file.scan
  else do
    orFail .config w.config.validate
    let options ← orFail .config w.config.poolOptions
    let outcome ← withPool m { options with size := 1 } .parser fun pool ↦ pool.parse m.host file
    orFail .parser outcome

/-- The command to parse: the facts of one file, as JSON that is laid out over lines. -/
def runParse (m : Machine σ ω) (w : Workspace) (args : ParseArgs) : ConsoleM Unit := do
  let facts ← parseFile m w args
  print (facts.json.pretty ++ "\n")

/-! ### Configurations -/

/-- The command to look at the configuration. -/
def runConfig (w : Workspace) (args : ConfigArgs) : ConsoleM Unit := do
  orFail .config w.config.validate
  if args.check then say ⟨.success, "Configuration is valid"⟩ else print w.config.text

/-! ### Commands -/

/-- Loads the workspace of a command. -/
def loadWorkspace (m : Machine σ ω) (i : Invocation) : ConsoleM Workspace := do
  let console ← get
  let root := i.workspace.clean
  let config ← orFail .config
    (Config.load m.cores console.files console.environment root i.config i.command.overrides)
  return { root, config }

/-- Runs a command. -/
def runCommand (m : Machine σ ω) (w : Workspace) : Command → ConsoleM Unit
  | .resolve args => runResolve m w args
  | .parse args => runParse m w args
  | .config args => runConfig w args

/-- Whether output is coloured: on a terminal or by force, unless colours are unwanted. -/
def wantsColours (environment : List (String × String)) (onTerminal noColor : Bool) : Bool :=
  let isSet (name : String) := environment.any (·.1 == name)
  !noColor && !isSet "NO_COLOR" && (isSet "FORCE_COLOR" || onTerminal)

/-- Runs a command line on a machine: what comes of it, and the console after it. -/
def Invocation.run (m : Machine σ ω) (i : Invocation) (files : Files)
    (environment : List (String × String)) (onTerminal : Bool) : Except Failure Unit × Console :=
  let colours := wantsColours environment onTerminal i.noColor
  let action : ConsoleM Unit := do runCommand m (← loadWorkspace m i) i.command
  (action.run { files, environment, colours : Console })

end JavaDeps.CommandLine
