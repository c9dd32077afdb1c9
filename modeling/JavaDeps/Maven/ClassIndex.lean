import JavaDeps.Java.Name
import JavaDeps.Maven.Label
import JavaDeps.Maven.LockFile
import JavaDeps.Sorted.Set

/-!
# The index of published classes

A checked lock file answers which artifact provides a class. **Two coordinates behind one label are
one dependency**: of the artifacts with a label the one with the smallest coordinate stands for all,
and a class is ambiguous only between different labels.
-/

namespace JavaDeps.Maven

/-- A published artifact and the label that stands for it in build rules. Several artifacts may have
one label. -/
structure Artifact where
  coordinate : Coordinate
  label : Label
  deriving DecidableEq, Repr

/-- The order of artifacts by their labels, and by their coordinates among those of one label, so
that the first of a label is the one that represents it. -/
def Artifact.compareByLabel (a b : Artifact) : Ordering :=
  (compare a.label b.label).then (compare a.coordinate b.coordinate)

/-- What is known of a class: the artifact that provides it, or several with different labels, or
none at all. -/
inductive ClassMatch where
  | found (artifact : Artifact)
  /-- One artifact for each of several labels, in order of labels. -/
  | ambiguous (artifacts : List Artifact)
  | missing
  deriving DecidableEq, Repr

/-- Why a lock file cannot be indexed. Every error but that of the file itself names the coordinate
of the artifact at fault, as it is spelled there. -/
inductive LockError where
  | file (e : LockFileError)
  | invalidCoordinate (coordinate : String) (fault : CoordinateFault)
  | duplicateCoordinate (coordinate : String)
  | invalidClassName (coordinate className : String)
  | missingLabel (coordinate : String)
  | invalidLabel (coordinate label : String)
  deriving DecidableEq, Repr

/-- The text of an error; the error of a text that is no JSON has none of its own. -/
def LockError.message? : LockError → Option String
  | .file (.json e) => e.message?.map ("malformed lock file: " ++ ·)
  | .file (.unsupportedVersion found) =>
    some ("unsupported lock file version " ++ toString found ++ " (expected "
      ++ toString supportedVersion ++ ")")
  | .invalidCoordinate coordinate fault =>
    some ("invalid coordinate `" ++ coordinate ++ "`: " ++ fault.message)
  | .duplicateCoordinate coordinate =>
    some ("coordinate `" ++ coordinate ++ "` is listed more than once")
  | .invalidClassName coordinate className =>
    some ("artifact `" ++ coordinate ++ "` lists invalid class name `" ++ className ++ "`")
  | .missingLabel coordinate =>
    some ("artifact `" ++ coordinate ++ "` has no label and the lock file names no repository")
  | .invalidLabel coordinate label =>
    some ("artifact `" ++ coordinate ++ "` has invalid label `" ++ label ++ "`")

/-- Whether a text is a qualified class name: words separated by dots, each of which begins with a
letter, an underscore or a dollar sign and goes on with these and digits. -/
def isClassName (name : String) : Bool :=
  (name.toList.splitOn '.').all fun segment ↦
    segment.head?.any (fun c ↦ Unicode.isAlphabetic c || c == '_' || c == '$')
      && segment.all fun c ↦ Unicode.isAlphanumeric c || c == '_' || c == '$'

/-- An artifact with the classes it provides, as the lock file lists them. -/
structure Provider where
  artifact : Artifact
  classes : List String
  deriving DecidableEq, Repr

/-- The index: the artifacts of a lock file in order, each with its classes. -/
structure ClassIndex where
  providers : List Provider := []
  deriving DecidableEq, Repr

namespace ClassIndex

/-- The label of a locked artifact: its own, which must have the shape of one, or else one derived
from the repository, which is not checked. -/
def labelOf (repository : Option String) (locked : LockedArtifact) (coordinate : Coordinate) :
    Except LockError Label :=
  match locked.label, repository with
  | some label, _ =>
    match Label.parse? label with
    | some l => .ok l
    | none => .error (.invalidLabel locked.coordinate label)
  | none, some repository => .ok (.ofCoordinate repository coordinate)
  | none, none => .error (.missingLabel locked.coordinate)

/-- Checks an artifact that comes after the coordinates `seen`: the coordinate first, then whether
it is new, then the label, and last the classes in their order. -/
def checkArtifact (repository : Option String) (seen : List Coordinate) (locked : LockedArtifact) :
    Except LockError Provider :=
  match Coordinate.parse locked.coordinate with
  | .error fault => .error (.invalidCoordinate locked.coordinate fault)
  | .ok coordinate =>
    if seen.contains coordinate then .error (.duplicateCoordinate locked.coordinate)
    else
      match labelOf repository locked coordinate with
      | .error e => .error e
      | .ok label =>
        match locked.classes.find? (!isClassName ·) with
        | some name => .error (.invalidClassName locked.coordinate name)
        | none => .ok ⟨⟨coordinate, label⟩, locked.classes⟩

/-- Checks artifacts one after another, each against the coordinates before it. The first fault
makes all of it fail. -/
def checkArtifacts (repository : Option String) (seen : List Coordinate) :
    List LockedArtifact → Except LockError (List Provider)
  | [] => .ok []
  | locked :: rest =>
    match checkArtifact repository seen locked with
    | .error e => .error e
    | .ok provider =>
      (checkArtifacts repository (provider.artifact.coordinate :: seen) rest).map (provider :: ·)

/-- The index of a lock file. -/
def ofLockFile (lock : LockFile) : Except LockError ClassIndex :=
  (checkArtifacts lock.repository [] lock.artifacts).map ClassIndex.mk

/-- The index of the bytes of a lock file, or what is wrong with them: with the file as such, or
with one of its artifacts. -/
def build (bytes : List UInt8) : Except LockError ClassIndex :=
  match LockFile.read bytes with
  | .error e => .error (.file e)
  | .ok lock => ofLockFile lock

/-- The artifacts that provide a class, in the order of the lock file. -/
def providersOf (index : ClassIndex) (symbol : String) : List Artifact :=
  (index.providers.filter (·.classes.contains symbol)).map (·.artifact)

/-- Keeps the first of neighbours with one label. In a list that is sorted by labels these are all
artifacts of the label. -/
def firstOfEachLabel : List Artifact → List Artifact
  | [] => []
  | a :: rest =>
    match firstOfEachLabel rest with
    | [] => [a]
    | b :: more => if a.label = b.label then a :: more else a :: b :: more

/-- The artifacts that stand for a class, one for each label, in order of labels. -/
def candidates (index : ClassIndex) (symbol : String) : List Artifact :=
  firstOfEachLabel <|
    (index.providersOf symbol).mergeSort fun a b ↦ (a.compareByLabel b).isLE

/-- Looks a class up by its full name. Artifacts behind one label count as one, so that it is
ambiguous only between different labels. -/
def resolve (index : ClassIndex) (symbol : String) : ClassMatch :=
  match index.candidates symbol with
  | [] => .missing
  | [only] => .found only
  | many => .ambiguous many

/-- The number of artifacts. -/
def artifactCount (index : ClassIndex) : Nat := index.providers.length

/-- The names of all classes. -/
def classNames (index : ClassIndex) : SortedSet String :=
  .ofList (index.providers.flatMap (·.classes))

/-- The number of classes. -/
def size (index : ClassIndex) : Nat := index.classNames.size

end ClassIndex

end JavaDeps.Maven
