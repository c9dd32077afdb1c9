import JavaDeps.Config.Use
import JavaDeps.Files.Tree
import JavaDeps.Resolve.Unit

/-!
# Finding units

A directory that holds Java files is a unit, and its kind is that of the root under which it was
found. Roots are walked in three passes: source roots, then test roots, then generated roots. **A
walk never enters a root of a later pass**, so that a directory has one kind.

Units are named by their directories as they are seen from the workspace, and so are their files.
-/

namespace JavaDeps.Discovery

open Resolve (UnitKind)

/-- A unit that was found: its kind, which is that of the root where its first file was met, and its
files as they are seen from the workspace. -/
structure FoundUnit where
  kind : UnitKind
  files : List Path
  deriving DecidableEq, Repr

/-- Units by their directories, in order. Two spellings of a directory are one unit, which keeps the
spelling that came first. -/
abbrev Units := SortedMap Path FoundUnit

/-! ### Files -/

/-- The path of something below a directory, by the names that lead to it from there. -/
def pathBelow (base : Path) (names : List String) : Path :=
  names.foldl (fun p name ↦ p.join ⟨name⟩) base

/-- Whether something that was met is a Java file: it is no directory, and its name has the
extension `java`. -/
def isJavaFile (p : Path) (entry : Entry) : Bool :=
  entry != .directory && p.extension? == some "java"

/-- The Java files among what was met below a walked directory, as they are seen from the workspace.
What does not lie in the workspace does not count. -/
def javaFiles (root walked : Path) (met : List (List String × Entry)) : List Path :=
  met.filterMap fun (names, entry) ↦
    let path := pathBelow walked names
    if isJavaFile path entry then (path.stripBase? root).map Path.clean else none

/-- The directory of the unit that a file belongs to. -/
def unitDirectory (file : Path) : Path :=
  match file.parent? with
  | some directory => if directory.text.isEmpty then ⟨"."⟩ else directory
  | none => ⟨"."⟩

/-- Adds a file to the unit of its directory. A unit that is new gets the given kind; one that is
there keeps its own. -/
def addFile (kind : UnitKind) (units : Units) (file : Path) : Units :=
  units.alter (unitDirectory file) fun
    | none => some ⟨kind, [file]⟩
    | some unit => some { unit with files := unit.files ++ [file] }

/-- Adds files to their units. -/
def addFiles (kind : UnitKind) (units : Units) (files : List Path) : Units :=
  files.foldl (addFile kind) units

/-! ### All units -/

/-- A walk over the roots of one kind, with the kind that new units get in it, and the roots that it
does not enter. -/
structure Pass where
  roots : List Path
  kind : UnitKind
  /-- The roots of later passes. -/
  skips : List Path

/-- The passes over the roots of a workspace, in order: source roots, test roots, generated roots.
Each of them leaves the roots of later ones to these. -/
def passes (root : Path) (config : Config) : List Pass :=
  let tests := config.testRoots root
  let generated := config.generatedRoots root
  [⟨config.sourceRoots root, .library, tests ++ generated⟩, ⟨tests, .test, generated⟩,
    ⟨generated, .generated, []⟩]

/-- Whether a walk from a root does not enter what it met: a directory whose name is excluded, or a
root of a later pass. -/
def Pass.isSkipped (pass : Pass) (config : Config) (walked : Path) (names : List String)
    (entry : Entry) : Bool :=
  (entry == .directory && names.getLast?.any config.isExcluded)
    || pass.skips.any (·.same (pathBelow walked names))

/-- The Java files under one root of a pass; there are none if the root is no directory. -/
def Pass.filesUnder (pass : Pass) (fs : Files) (root : Path) (config : Config) (walked : Path) :
    List Path :=
  match fs.find walked with
  | .ok (place, .directory) => javaFiles root walked (fs.walk (pass.isSkipped config walked) place)
  | _ => []

/-- The Java files of a pass, root by root. A file below two roots of the pass is listed once for
each of them. -/
def Pass.files (pass : Pass) (fs : Files) (root : Path) (config : Config) : List Path :=
  pass.roots.flatMap (pass.filesUnder fs root config)

/-- The units of a workspace before modules are folded: what the three passes found, in their
order. -/
def plainUnits (fs : Files) (root : Path) (config : Config) : Units :=
  (passes root config).foldl
    (fun units pass ↦ addFiles pass.kind units (pass.files fs root config)) ∅

/-! ### Modules -/

/-- The deepest of the modules that a directory lies in, component by component; the last of equals.
Nothing if it lies in none. -/
def moduleOf? (modules : List Path) (directory : Path) : Option Path :=
  (modules.filter directory.startsWith).foldl
    (fun best m ↦
      match best with
      | none => some m
      | some b => if b.components.length ≤ m.components.length then some m else some b) none

/-- Folds a unit into the unit of its module. The module is there afterwards even if it had no files
of its own, and it has the kind of what came first. -/
def foldUnit (modules : List Path) (grouped : Units) (entry : Path × FoundUnit) : Units :=
  grouped.alter ((moduleOf? modules entry.1).getD entry.1) fun
    | none => some entry.2
    | some unit => some { unit with files := unit.files ++ entry.2.files }

/-- A unit with its files in order. -/
def FoundUnit.sorted (unit : FoundUnit) : FoundUnit :=
  { unit with files := unit.files.mergeSort fun a b ↦ (compare a b).isLE }

/-- Folds every unit below a module into the unit of the module, with its files in order. Other
units stay, and without modules nothing is done at all. -/
def groupModules (modules : List Path) (units : Units) : Units :=
  if modules.isEmpty then units
  else (units.entries.foldl (foldUnit (modules.map Path.clean)) ∅).mapValues FoundUnit.sorted

/-- The units of a workspace: what is found below its roots, with modules folded as the
configuration says. -/
def discoverUnits (fs : Files) (root : Path) (config : Config) : Units :=
  groupModules config.resolver.modules (plainUnits fs root config)

/-! ### Named units -/

/-- The kind of a directory that was named, as the roots above it say. Generated roots come before
test roots, and without either it is a library. -/
def kindUnder (root : Path) (config : Config) (directory : Path) : UnitKind :=
  if (config.generatedRoots root).any fun r ↦ directory.startsWith r.clean then .generated
  else if (config.testRoots root).any fun r ↦ directory.startsWith r.clean then .test
  else .library

/-- The Java files right inside of a directory, and none from further down. There are none if it is
no directory. -/
def filesRightIn (fs : Files) (root directory : Path) : List Path :=
  match fs.find directory with
  | .ok (place, .directory) =>
    javaFiles root directory ((fs.walk (fun _ _ ↦ false) place).filter (·.1.length == 1))
  | _ => []

/-- Adds the unit of a directory that was named. The directory must exist; it is cleaned before its
files are looked up. -/
def addNamed (fs : Files) (root : Path) (config : Config) (units : Units) (directory : Path) :
    Except String Units :=
  let path := root.join directory
  if fs.isDirectory path then
    let path := path.clean
    .ok (addFiles (kindUnder root config path) units (filesRightIn fs root path))
  else .error ("unit is not a directory: " ++ path.text)

/-- The units of directories that were named, one after another. The first that is no directory
makes all of it fail. -/
def explicitUnits (fs : Files) (root : Path) (config : Config) (directories : List Path) :
    Except String Units :=
  directories.foldlM (addNamed fs root config) ∅

end JavaDeps.Discovery
