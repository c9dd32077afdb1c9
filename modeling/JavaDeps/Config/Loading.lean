import JavaDeps.Config.Document
import JavaDeps.Config.Failure
import JavaDeps.Config.Variables
import JavaDeps.Files.Tree

/-!
# Loading a configuration

Settings come from a file, from the environment and from the command line; **each of these lies over
the ones before it**, and the defaults lie below them all.
-/

namespace JavaDeps.Config

open Toml (Value)

/-! ### Overrides -/

/-- Settings on the command line. Each of them may be left out, and then the layers below decide. -/
structure Overrides where
  command : Option (List String) := none
  poolSize : Option Nat := none
  /-- The log filter of the workers. -/
  workerLogLevel : Option String := none
  lockFile : Option Path := none
  logLevel : Option String := none
  deriving DecidableEq, Repr

namespace Overrides

/-- The entry for a setting, if there is one. -/
def entry (key : String) (v : Option Value) : Toml.Entries := v.toList.map fun v ↦ (key, v)

/-- The entry for a section, unless it is empty. -/
def sectionEntry (key : String) (entries : Toml.Entries) : Toml.Entries :=
  if entries.isEmpty then [] else [(key, .table entries)]

/-- The settings as a layer: a table with the sections and entries that are set, and no others. -/
def layer (o : Overrides) : Value :=
  .table <|
    sectionEntry "parser"
      (entry "command" (o.command.map fun argv ↦ .list (argv.map .text))
        ++ entry "pool_size" (o.poolSize.map fun n ↦ .integer n)
        ++ entry "log_level" (o.workerLogLevel.map .text))
    ++ sectionEntry "resolver" (entry "lock_file" (o.lockFile.map fun p ↦ .text p.text))
    ++ sectionEntry "settings" (entry "log_level" (o.logLevel.map .text))

end Overrides

/-! ### Layers -/

/-- The configuration of layers, the lowest first, on a machine with so many cores. A layer above
replaces values below, table by table. -/
def ofLayers (cores : Nat) (layers : List Value) : Except Failure Config :=
  (read cores (layers.foldl Toml.overlay (.table []))).mapError fun m ↦ .load (.misfit m)

/-- The layer of a document. -/
def documentLayer (text : String) : Except Failure Value :=
  match Toml.parse? text with
  | some entries => .ok (.table entries)
  | none => .error (.load .document)

/-- The configuration of a document alone, without variables and settings: the defaults fill in what
the document leaves out. -/
def ofText (cores : Nat) (text : String) : Except Failure Config := do
  ofLayers cores [← documentLayer text]

/-! ### Files -/

/-- The name of the file that holds the configuration of a workspace. -/
def fileName : Path := ⟨"jvdeps.toml"⟩

/-- The file of a workspace, if there is one. -/
def find? (fs : Files) (root : Path) : Option Path :=
  let path := root.join fileName
  if fs.isFile path then some path else none

/-- The file to load: the one that was asked for, which must exist, or else that of the workspace,
if there is one. -/
def chosenFile (fs : Files) (root : Path) (asked : Option Path) : Except Failure (Option Path) :=
  match asked with
  | none => .ok (find? fs root)
  | some path =>
    let path := root.join path
    if fs.isFile path then .ok (some path) else .error (.notFound path)

/-- The layer of a file, if there is one. -/
def fileLayer (fs : Files) (file : Option Path) : Except Failure (List Value) :=
  match file with
  | none => .ok []
  | some path =>
    match fs.readText path with
    | .ok text => (documentLayer text).map ([·])
    | .error _ => .error (.load .document)

/-- Loads the configuration of a workspace: its file, the variables of the environment over it, and
the settings on the command line over both. -/
def load (cores : Nat) (fs : Files) (environment : List (String × String)) (root : Path)
    (asked : Option Path) (overrides : Overrides) : Except Failure Config := do
  let file ← fileLayer fs (← chosenFile fs root asked)
  ofLayers cores (file ++ [variablesLayer environment, overrides.layer])

end JavaDeps.Config
