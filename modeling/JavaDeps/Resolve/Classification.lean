import JavaDeps.Maven.Label
import JavaDeps.Sorted.Map

/-!
# Why a unit needs a label

A label is needed to compile or only to run. A unit may need one label for several reasons: **the
strongest wins**, so a set of dependencies depends neither on the order in which reasons were found
nor on how often.
-/

namespace JavaDeps.Resolve

/-- Why a label is needed. The two reasons are ordered: what is needed to compile a unit is there
when it runs, so that it need not be listed for that as well. -/
inductive Classification where
  /-- Only when the unit runs. -/
  | runtime
  /-- To compile the unit. -/
  | compile
  deriving DecidableEq, Repr, Inhabited

namespace Classification

/-- The name of a classification in reports. -/
def name : Classification → String
  | runtime => "runtime"
  | compile => "compile"

/-- The stronger of two classifications. A label is needed only to run if both of them say so, and
to compile otherwise. -/
def strongest : Classification → Classification → Classification
  | runtime, runtime => runtime
  | _, _ => compile

end Classification

/-- The labels that a unit depends on, each with the strongest reason that was found for it. Labels
are kept in order, so that equal sets have equal listings. -/
structure DependencySet where
  labels : SortedMap Label Classification := ∅
  deriving DecidableEq

namespace DependencySet

/-- Adds a reason for a label. A label that is there already keeps the stronger of its two reasons,
and the reasons of other labels stay as they are. -/
def insert (s : DependencySet) (label : Label) (c : Classification) : DependencySet :=
  ⟨s.labels.alter label fun old ↦ some (old.elim c (·.strongest c))⟩

/-- The set that comes of labels and reasons when these are added one after another, beginning with
the empty set. Neither their order nor repetitions show in it. -/
def ofList (l : List (Label × Classification)) : DependencySet :=
  l.foldl (fun s e ↦ s.insert e.1 e.2) {}

/-- The strongest of the reasons that were added for a label, if there were any. -/
def get? (s : DependencySet) (label : Label) : Option Classification := s.labels.get? label

/-- The labels with their reasons, in order. -/
def entries (s : DependencySet) : List (Label × Classification) := s.labels.entries

/-- The number of labels. -/
def size (s : DependencySet) : Nat := s.labels.size

/-- Whether there are no labels. -/
def isEmpty (s : DependencySet) : Bool := s.labels.isEmpty

/-- The labels whose strongest reason is the given one, in order. A label that is needed to compile
is not among those that are needed to run. -/
def labelsFor (s : DependencySet) (c : Classification) : List Label :=
  (s.entries.filter (·.2 == c)).map (·.1)

/-- The two lists that a build rule has: the labels needed to compile, and those needed only to run.
No label is in both. -/
def split (s : DependencySet) : List Label × List Label :=
  (s.labelsFor .compile, s.labelsFor .runtime)

end DependencySet

end JavaDeps.Resolve
