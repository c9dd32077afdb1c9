import JavaDeps.Resolve.Unit
import JavaDeps.Source.Parser

/-!
# Resolving all units

A run parses the files of all units and then resolves all units, **so that no lookup happens before
the last recording**. A unit with a file that cannot be parsed is skipped; what other files of it
declare stays in the index.
-/

namespace JavaDeps.Resolve

open Pool (ParseFailure)

/-- Why a unit has no resolution: one of its files could be read but not parsed, or it could not be
read in the first place. -/
inductive UnitFailure where
  /-- A file of the unit could not be parsed. -/
  | parse (failure : ParseFailure)
  /-- A file of the unit could not be read. -/
  | read (path : Path) (reason : String)
  deriving DecidableEq, Repr

/-- The text of a failure. -/
def UnitFailure.message : UnitFailure → String
  | parse failure => failure.message
  | read path reason => "failed to read " ++ path.text ++ ": " ++ reason

/-- A unit to resolve: its directory as it is seen from the workspace, its kind, and its files with
the texts that they have. -/
structure UnitRequest where
  directory : Path
  files : List SourceFile
  kind : UnitKind := .library
  deriving DecidableEq

/-- What becomes of a unit that makes a rule. It is resolved, or else it is skipped, with the
failure that keeps it from being resolved. -/
inductive UnitOutcome where
  | resolved (r : UnitResolution)
  | skipped (directory : Path) (failure : UnitFailure)
  deriving DecidableEq

namespace UnitOutcome

/-- The directory of the unit. -/
def directory : UnitOutcome → Path
  | resolved r => r.directory
  | skipped directory _ => directory

/-- The resolution, unless the unit was skipped. -/
def resolution? : UnitOutcome → Option UnitResolution
  | resolved r => some r
  | skipped .. => none

end UnitOutcome

/-- What a run produces: the outcomes of units in order of their directories, and how many files had
to be parsed for them. -/
structure RunReport where
  units : List UnitOutcome
  /-- The number of files that were parsed. -/
  parsedFiles : Nat
  deriving DecidableEq

namespace RunReport

/-- The resolutions of all units that were not skipped. -/
def resolved (r : RunReport) : List UnitResolution := r.units.filterMap (·.resolution?)

/-- The number of skipped units. -/
def skipped (r : RunReport) : Nat := (r.units.filter (·.resolution?.isNone)).length

/-- The number of unresolved symbols in all units. -/
def unresolved (r : RunReport) : Nat :=
  r.resolved.foldr (fun u n ↦ u.report.unresolved.size + n) 0

/-- The number of ambiguous symbols in all units. -/
def ambiguities (r : RunReport) : Nat :=
  r.resolved.foldr (fun u n ↦ u.report.ambiguities.length + n) 0

/-- The report in one line. -/
def summary (r : RunReport) : String :=
  "Resolved " ++ toString r.resolved.length ++ " unit(s), parsed " ++ toString r.parsedFiles
    ++ " file(s); " ++ toString r.skipped ++ " skipped, " ++ toString r.unresolved
    ++ " unresolved, " ++ toString r.ambiguities ++ " ambiguous"

/-- Whether there is nothing to complain about. -/
def isClean (r : RunReport) : Bool := r.skipped + r.unresolved + r.ambiguities == 0

end RunReport

/-- A report with more outcomes, all in order of directories again. What could not be read is added
in this way after the run. -/
def RunReport.withMore (r : RunReport) (more : List UnitOutcome) : RunReport :=
  { r with
    units := (r.units ++ more).mergeSort fun a b ↦ (compare a.directory b.directory).isLE }

/-- Units in order of their directories. Units with directories that compare equal keep the order in
which they came. -/
def sortUnits (units : List UnitRequest) : List UnitRequest :=
  units.mergeSort fun a b ↦ (compare a.directory b.directory).isLE

/-- A file to parse, with the directory of its unit and the position of the unit among all sorted
ones, by which a failure finds it again. -/
structure ParseTask where
  position : Nat
  directory : Path
  file : SourceFile
  deriving DecidableEq

/-- A file that was to be parsed, together with the facts or the failure that parsing it came to. -/
structure ParsedTask where
  task : ParseTask
  result : ParseOutcome

namespace Resolver

/-- The files of units that the index does not hold as they are: those that were never recorded, and
those whose text has changed. They are listed unit by unit. -/
def staleTasks (r : Resolver) (units : List UnitRequest) : List ParseTask :=
  (units.mapIdx fun position unit ↦
    (unit.files.filter fun f ↦ !r.index.isCurrent unit.directory f.path f.stamp).map fun file ↦
      ⟨position, unit.directory, file⟩).flatten

/-- Records the facts of a file in its directory, under the stamp of the text that they were read
from. -/
def record (r : Resolver) (directory : Path) (file : SourceFile) (facts : Java.Facts) : Resolver :=
  { r with index := r.index.record directory file.path ⟨file.stamp, facts⟩ }

/-- Records the facts of all files that could be parsed, in the order in which these were finished.
Failures leave the index as it is. -/
def recordAll (r : Resolver) (done : List ParsedTask) : Resolver :=
  done.foldl (fun r t ↦
    match t.result with
    | .ok facts => r.record t.task.directory t.task.file facts
    | .error _ => r) r

/-- The failure that is reported for the unit at a position: the first that was met among its files,
in the order in which files were finished. -/
def failureAt? (done : List ParsedTask) (position : Nat) : Option ParseFailure :=
  done.findSome? fun t ↦
    match t.result with
    | .error e => if t.task.position = position then some e else none
    | .ok _ => none

/-- The outcomes of all units that become rules. A unit with a failure is skipped, and any other one
is resolved against what has been recorded by then. -/
def unitOutcomes (r : Resolver) (units : List UnitRequest) (done : List ParsedTask) :
    List UnitOutcome :=
  (units.mapIdx fun position unit ↦
    if unit.kind.emitsRule then
      match failureAt? done position with
      | some failure => [.skipped unit.directory (.parse failure)]
      | none => [.resolved (r.resolveUnit unit.directory unit.kind)]
    else []).flatten

/-- The report of a run over sorted units, and the resolver after it. The stale files of the units
have been parsed, and stand in the order in which they were finished. -/
def finish (r : Resolver) (units : List UnitRequest) (done : List ParsedTask) :
    RunReport × Resolver :=
  let after := r.recordAll done
  (⟨after.unitOutcomes units done, done.length⟩, after)

/-- Runs over units: they are sorted, their stale files are parsed, all facts are recorded, and only
then is any unit resolved. The parser hands in outcomes in the order of the files. -/
def execute {σ : Type} (r : Resolver) (parser : Parser σ) (units : List UnitRequest) (s : σ) :
    (RunReport × Resolver) × σ :=
  let sorted := sortUnits units
  let tasks := r.staleTasks sorted
  let (outcomes, s) := parser (tasks.map (·.file)) s
  (r.finish sorted (tasks.zipWith ParsedTask.mk outcomes), s)

/-- The resolver after a run that was called off: a workspace known only in part is forgotten. -/
def cancelled (r : Resolver) : Resolver := { r with index := r.index.clear }

end Resolver

end JavaDeps.Resolve
