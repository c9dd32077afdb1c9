import JavaDeps.CommandLine.Run

/-!
# The command line

Reads the directory of the command and its workspace, runs the command on what was read, and writes
what it wrote. Nothing is decided here.
-/

namespace JavaDeps.CommandLine

/-- The version of the program. -/
def version : String := "jvdeps 0.4.1"

/-- How the program is used. -/
def usage : String :=
  "\n".intercalate
    ["Resolve Java build-rule dependencies",
      "",
      "Usage: jvdeps [OPTIONS] <COMMAND>",
      "",
      "Commands:",
      "  resolve  Compute the dependencies of every unit",
      "  parse    Print the structural facts of one Java file",
      "  config   Print or check the effective configuration",
      "",
      "Options:",
      "  -v, --verbose          Enable verbose logging (debug level)",
      "  -q, --quiet            Suppress all output except errors",
      "      --no-color         Disable colored output",
      "  -w, --workspace <DIR>  Workspace root [default: .]",
      "  -c, --config <FILE>    Config file to use instead of <workspace>/jvdeps.toml",
      "  -h, --help             Print help",
      "  -V, --version          Print version",
      ""]

/-- The text of a fault in the command line. -/
def UsageFault.text : UsageFault → String
  | helpWanted | nothingGiven => usage
  | versionWanted => version ++ "\n"
  | missingCommand => "error: a command is required\n"
  | unknownCommand => "error: unrecognized command\n"
  | unknownArgument => "error: unexpected argument\n"
  | conflict => "error: an argument cannot be used more than once, or with another\n"
  | missingArgument => "error: a required argument was not provided\n"
  | emptyValue => "error: a value is required\n"
  | badNumber => "error: a value is not a number\n"
  | unwantedValue => "error: a value was given to a flag\n"

/-- The text of a failure in words of the program alone. -/
def Failure.text (f : Failure) : String :=
  f.message?.getD <|
    match f with
    | config (.load (.misfit m)) =>
      "Configuration error: unusable value for `" ++ ".".intercalate m.keys ++ "`"
    | config (.pattern p) => "Configuration error: invalid pattern `" ++ p ++ "`"
    | config _ => "Configuration error: the document cannot be read"
    | _ => lockText "malformed lock file"

/-- Reads all variables of the environment. -/
def readEnvironment : IO (List (String × String)) := do
  let entries := (← IO.FS.readFile "/proc/self/environ").splitOn "\x00"
  return entries.filterMap fun entry ↦
    match entry.splitOn "=" with
    | name :: value => if value.isEmpty then none else some (name, "=".intercalate value)
    | [] => none

/-- Counts the cores of the machine. -/
def countCores : IO Nat := do
  let lines := (← IO.FS.readFile "/proc/cpuinfo").splitOn "\n"
  return max 1 (lines.countP (·.startsWith "processor"))

/-- A machine with so many cores, on which no programs are started but the reference worker. -/
def bareMachine (cores : Nat) : Machine Empty Files where
  cores
  programs := Worker.noPrograms Files
  world files _ := files
  files := id

/-- The place of an absolute path. -/
def placeOfText (text : String) : Place := Resolve.normalNames (Path.mk text).clean.components

/-- The absolute path of a place. -/
def textOfPlace (place : Place) : String := "/" ++ "/".intercalate place

/-- Reads the file at a place, if it can be read. -/
def readFileAt (fs : Files) (place : Place) : IO Files := do
  try return fs.addFile place (← IO.FS.readBinFile (textOfPlace place)).toList
  catch _ => return fs

/-- Reads all that is below a directory. -/
partial def readTree (fs : Files) (place : Place) : IO Files := do
  let here ← IO.currentDir
  let entries ← try (here / textOfPlace place).readDir catch _ => pure #[]
  entries.foldlM (fun fs entry ↦ do
    let below := place ++ [entry.fileName]
    match (← entry.path.metadata).type with
    | .dir => readTree (fs.addDirectory below) below
    | .file => readFileAt fs below
    | _ => pure fs) (fs.addDirectory place)

/-- Writes the files that are new or different. -/
def writeChanges (before after : Files) : IO Unit :=
  after.entries.entries.forM fun (place, entry) ↦ do
    if let .file contents := entry then
      if before.entryAt? place ≠ some entry then
        IO.FS.writeBinFile (textOfPlace place) ⟨contents.toArray⟩

/-- Runs a command line that has been read. -/
def Invocation.perform (i : Invocation) : IO UInt32 := do
  let here := (← IO.currentDir).toString
  let start : Files := { current := placeOfText here }
  let root := (Path.mk here).join i.workspace
  let mut files ← readTree start start.current
  unless root.clean.startsWith ⟨here⟩ do
    files ← readTree files (placeOfText root.text)
  let named := i.config.toList ++ (match i.command with
    | .resolve args => args.lockFile.toList
    | .parse args => [(Path.mk here).join args.file]
    | .config _ => [])
  for path in named do
    files ← readFileAt files (placeOfText (root.join path).text)
  let machine := bareMachine (← countCores)
  let (result, console) := i.run machine files (← readEnvironment) (← (← IO.getStderr).isTty)
  IO.print console.output
  IO.eprint console.messages
  writeChanges files console.files
  match result with
  | .ok _ => return 0
  | .error failure =>
    IO.eprintln ("Error: " ++ failure.text)
    return 1

end JavaDeps.CommandLine

open JavaDeps.CommandLine in
/-- Runs the program. -/
def main (args : List String) : IO UInt32 := do
  match Invocation.parse args with
  | .ok i => i.perform
  | .error .helpWanted => IO.print usage; return 0
  | .error .versionWanted => IO.print (UsageFault.versionWanted).text; return 0
  | .error fault => IO.eprint fault.text; return 2
