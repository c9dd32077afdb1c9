import JavaDeps.Workspace.Package

/-!
# The index of the workspace

The index keeps the recorded files of every directory, and for every declared type the directories
that declare it. **The second table is kept up as files are recorded**: a recording changes the
owners of just the types that appear in its directory or vanish from it.
-/

namespace JavaDeps.Workspace

/-- Who declares a type: a single directory, several of them, or none that has been recorded. -/
inductive Lookup where
  | found (directory : Path)
  /-- Several directories, in order. -/
  | ambiguous (directories : List Path)
  | missing
  deriving DecidableEq, Repr

/-- The index of the workspace. The owners of types could be computed from the packages at any time;
they are kept beside them so that a lookup need not go through all packages. -/
structure Index where
  packages : SortedMap Path Package := ∅
  /-- The directories that declare a type. -/
  owners : SortedMap String (SortedSet Path) := ∅
  /-- The number of recordings ever made. -/
  generation : Nat := 0
  deriving DecidableEq

namespace Index

/-- Takes a directory off the owners of a type. A type that is left without owners is dropped, and
one that had none stays out. -/
def disown (directory : Path) (owners : SortedMap String (SortedSet Path)) (symbol : String) :
    SortedMap String (SortedSet Path) :=
  owners.alter symbol fun old? ↦
    match old? with
    | none => none
    | some old =>
      let left := old.erase directory
      if left.isEmpty then none else some left

/-- Puts a directory among the owners of a type. If it is there in another spelling, then that
spelling stays. -/
def own (directory : Path) (owners : SortedMap String (SortedSet Path)) (symbol : String) :
    SortedMap String (SortedSet Path) :=
  owners.alter symbol fun old? ↦ some ((old?.getD ∅).insert directory)

/-- Records the facts of a file in a directory, in place of what was recorded for its path. The
owners change for those types alone that the directory did not declare before, or does not declare
any more. -/
def record (index : Index) (directory : Path) (path : Path) (r : FileRecord) : Index :=
  let generation := index.generation + 1
  let before := (index.packages.get? directory).getD { directory }
  let after := before.record path r generation
  let removed := before.declared.toList.filter (!after.declared.contains ·)
  let added := after.declared.toList.filter (!before.declared.contains ·)
  { packages := index.packages.insert directory after
    owners := added.foldl (own directory) (removed.foldl (disown directory) index.owners)
    generation }

/-- Forgets all recordings, but not their number, which goes on from where it was. -/
def clear (index : Index) : Index := { generation := index.generation }

/-- The directories that declare a type, each of them once and in order. There are none for a type
that has not been recorded. -/
def ownersOf (index : Index) (symbol : String) : List Path :=
  ((index.owners.get? symbol).map (·.toList)).getD []

/-- Who declares a type, by how many directories do. Several declarations in files of one directory
make a single owner. -/
def lookup (index : Index) (symbol : String) : Lookup :=
  match index.ownersOf symbol with
  | [] => .missing
  | [only] => .found only
  | several => .ambiguous several

/-- Whether a file is recorded in a directory under the stamp of its contents, so that it need not
be parsed again. -/
def isCurrent (index : Index) (directory : Path) (path : Path) (stamp : Stamp) : Bool :=
  (index.packages.get? directory).any (·.isCurrent path stamp)

/-- What a directory refers to, if anything was recorded in it. -/
def referenced? (index : Index) (directory : Path) : Option ReferencedSymbols :=
  (index.packages.get? directory).map (·.referenced)

/-- The types that a directory declares and others declare too, in order, each with all the
directories that do, this one included. -/
def conflictsIn (index : Index) (directory : Path) : List (String × List Path) :=
  match index.packages.get? directory with
  | none => []
  | some p =>
    p.declared.toList.filterMap fun symbol ↦
      let owners := index.ownersOf symbol
      if 1 < owners.length then some (symbol, owners) else none

/-- The recorded directories, in order. -/
def directories (index : Index) : List Path := index.packages.keys

/-- The number of recorded directories. -/
def size (index : Index) : Nat := index.packages.size

end Index

end JavaDeps.Workspace
