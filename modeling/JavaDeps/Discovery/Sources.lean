import JavaDeps.Discovery.Units
import JavaDeps.Resolve.Run

/-!
# Reading the sources of units

The files of a unit are read from below the workspace and keep the paths that they have in it. **A
unit with a file that cannot be read is skipped**, and one that makes no rule is left out.
-/

namespace JavaDeps.Discovery

open Resolve (UnitFailure UnitOutcome UnitRequest)

/-- Reads a file of a unit. -/
def readSource (fs : Files) (root file : Path) : Except UnitFailure SourceFile :=
  match fs.readText (root.join file) with
  | .ok contents => .ok ⟨file, contents⟩
  | .error fault => .error (.read file fault.message)

/-- Reads all files of a unit, in their order. The first that cannot be read makes the unit fail. -/
def readUnit (fs : Files) (root directory : Path) (unit : FoundUnit) :
    Except UnitFailure UnitRequest :=
  (unit.files.mapM (readSource fs root)).map fun files ↦ ⟨directory, files, unit.kind⟩

/-- Units that were read, and what becomes of those that were not. -/
structure ReadUnits where
  requests : List UnitRequest
  unreadable : List UnitOutcome

/-- Reads the files of all units. A unit with a file that cannot be read is reported if it would
have become a rule, and is left out otherwise. -/
def readUnits (fs : Files) (root : Path) (units : Units) : ReadUnits where
  requests := units.entries.filterMap fun (directory, unit) ↦
    (readUnit fs root directory unit).toOption
  unreadable := units.entries.filterMap fun (directory, unit) ↦
    match readUnit fs root directory unit with
    | .ok _ => none
    | .error failure => if unit.kind.emitsRule then some (.skipped directory failure) else none

end JavaDeps.Discovery
