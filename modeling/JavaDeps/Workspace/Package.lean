import JavaDeps.Sorted.Map
import JavaDeps.Source.File

/-!
# The files of one directory

What the recorded files of a directory declare and refer to together. Files are kept by path; the
package name of the directory is that of its first file.
-/

namespace JavaDeps.Workspace

/-- What is recorded of one file: the facts that were read from it, and the stamp of the text that
they were read from. -/
structure FileRecord where
  stamp : Stamp
  facts : Java.Facts
  deriving DecidableEq

/-- The recorded files of a directory, by their paths. Two spellings of a path are one file, and the
spelling that came first stays. -/
structure Package where
  directory : Path
  files : SortedMap Path FileRecord := ∅
  /-- The number of the recording that came last. -/
  generation : Nat := 0
  deriving DecidableEq

/-- What the files of a directory refer to together. Everything that a resolution needs to know of a
directory is in here, but for what it declares. -/
structure ReferencedSymbols where
  /-- The package of the first file. -/
  package : String := ""
  /-- The packages of all files. -/
  packages : SortedSet String := ∅
  /-- Qualified names: imports and names in full. -/
  qualified : SortedSet String := ∅
  /-- Simple names that the directory does not declare. -/
  simpleNames : SortedSet String := ∅
  /-- Packages imported whole. -/
  wildcardPackages : SortedSet String := ∅
  /-- Classes named by string literals. -/
  reflective : SortedSet String := ∅
  deriving DecidableEq

namespace Package

/-- The facts of all files, in order of their paths. -/
def facts (p : Package) : List Java.Facts := p.files.values.map (·.facts)

/-- Records a file in place of what was recorded for its path. -/
def record (p : Package) (path : Path) (r : FileRecord) (generation : Nat) : Package :=
  { p with files := p.files.insert path r, generation }

/-- The qualified types that the files declare, each once. What several files of the directory
declare together is no conflict. -/
def declared (p : Package) : SortedSet String :=
  .ofList (p.facts.flatMap (·.qualifiedTypes))

/-- The package name of the directory: that of its first file in order of paths, whatever the others
say. -/
def name (p : Package) : String := (p.facts.head?.map (·.package)).getD ""

/-- Whether a file is recorded with the same contents. -/
def isCurrent (p : Package) (path : Path) (stamp : Stamp) : Bool :=
  (p.files.get? path).any (·.stamp == stamp)

/-- All that the files refer to. A simple name counts unless the directory declares it in the
package of the file that uses it. -/
def referenced (p : Package) : ReferencedSymbols where
  package := p.name
  packages := .ofList (p.facts.map (·.package))
  qualified := .ofList (p.facts.flatMap fun f ↦ f.imports.toList ++ f.qualifiedReferences.toList)
  simpleNames :=
    .ofList (p.facts.flatMap fun f ↦
      f.simpleNames.toList.filter fun name ↦ !p.declared.contains (f.qualify name))
  wildcardPackages := .ofList (p.facts.flatMap (·.wildcardImports.toList))
  reflective := .ofList (p.facts.flatMap (·.reflectiveReferences.toList))

end Package

end JavaDeps.Workspace
