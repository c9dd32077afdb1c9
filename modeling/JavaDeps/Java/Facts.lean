import JavaDeps.Java.Name
import JavaDeps.Sorted.Set

/-!
# Facts about a source file

What one Java file declares and refers to: all that dependency resolution ever looks at.
-/

namespace JavaDeps.Java

/-- The facts read off one source file. Nothing else of a file is kept: whatever a resolution says
of a unit follows from the facts of its files. -/
structure Facts where
  /-- The declared package; empty for the unnamed one. -/
  package : String := ""
  /-- The top-level types, in order of declaration. -/
  declaredTypes : List String := []
  /-- Imported types, each cut to its top-level type. -/
  imports : SortedSet String := ∅
  /-- Packages imported whole. -/
  wildcardImports : SortedSet String := ∅
  /-- Types named in full in the body. -/
  qualifiedReferences : SortedSet String := ∅
  /-- Types named simply, neither declared nor imported. -/
  simpleNames : SortedSet String := ∅
  /-- Types named only by string literals. -/
  reflectiveReferences : SortedSet String := ∅
  deriving DecidableEq, Inhabited

namespace Facts

/-- A simple name put into the file's package. -/
def qualify (facts : Facts) (name : String) : String :=
  Java.qualify facts.package name

/-- The declared types with the package in front. -/
def qualifiedTypes (facts : Facts) : List String :=
  facts.declaredTypes.map facts.qualify

end Facts

end JavaDeps.Java
