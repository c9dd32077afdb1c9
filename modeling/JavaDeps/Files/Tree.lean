import JavaDeps.Path
import JavaDeps.Sorted.Map
import JavaDeps.Text.Utf8

/-!
# Files

The files that a command can see. A place is the list of the names on the way to it from the root,
so **the order of places is the order of a walk**: a directory comes before what it holds, and names
go by their characters.

A path leads to a place step by step: `..` goes to the directory above the one that was reached, and
every step but the last needs a directory.
-/

namespace JavaDeps

/-- Where a file or a directory is: the names on the way to it. -/
abbrev Place := List String

/-- What is at a place. -/
inductive Entry where
  | file (contents : List UInt8)
  | directory
  deriving DecidableEq, Repr

/-- Files and directories, by their places. There are no links, and nothing is said about
permissions. -/
structure Files where
  entries : SortedMap Place Entry := ∅
  /-- Where relative paths start. -/
  current : Place := []

namespace Files

/-- Why a file cannot be read or written. -/
inductive Fault where
  | missing
  /-- Something on the way is a file. -/
  | notDirectory
  /-- There is a directory where a file is needed. -/
  | directory
  | notText
  deriving DecidableEq, Repr

/-- The text of a fault. -/
def Fault.message : Fault → String
  | missing => "No such file or directory (os error 2)"
  | notDirectory => "Not a directory (os error 20)"
  | directory => "Is a directory (os error 21)"
  | notText => "stream did not contain valid UTF-8"

/-! ### Building -/

/-- Adds a directory, with all directories on the way. -/
def addDirectory (fs : Files) (place : Place) : Files :=
  { fs with
    entries := (List.range (place.length + 1)).foldl
      (fun m n ↦ m.insertNew (place.take n) .directory) fs.entries }

/-- Puts contents at a place. -/
def putFile (fs : Files) (place : Place) (contents : List UInt8) : Files :=
  { fs with entries := fs.entries.insert place (.file contents) }

/-- Adds a file, with all directories on the way. -/
def addFile (fs : Files) (place : Place) (contents : List UInt8) : Files :=
  (fs.addDirectory place.dropLast).putFile place contents

/-! ### Finding -/

/-- What is at a place; the root is always there. -/
def entryAt? (fs : Files) (place : Place) : Option Entry :=
  if place.isEmpty then some .directory else fs.entries.get? place

/-- The place one step further. -/
def step (fs : Files) (place : Place) (name : List Char) : Except Fault Place :=
  match fs.entryAt? place with
  | none => .error .missing
  | some (.file _) => .error .notDirectory
  | some .directory =>
    match name with
    | [] | ['.'] => .ok place
    | ['.', '.'] => .ok place.dropLast
    | name => .ok (place ++ [String.ofList name])

/-- The place that a path leads to. There need not be anything. -/
def locate (fs : Files) (p : Path) : Except Fault Place :=
  if p.text.isEmpty then .error .missing
  else
    (p.text.toList.splitOn '/').foldlM (fun place name ↦ fs.step place name)
      (if p.isAbsolute then [] else fs.current)

/-- What a path leads to, with its place. -/
def find (fs : Files) (p : Path) : Except Fault (Place × Entry) := do
  let place ← fs.locate p
  match fs.entryAt? place with
  | some entry => return (place, entry)
  | none => throw .missing

/-- Whether a path leads to a directory. -/
def isDirectory (fs : Files) (p : Path) : Bool :=
  (fs.find p).toOption.any (·.2 == .directory)

/-- Whether a path leads to a file. -/
def isFile (fs : Files) (p : Path) : Bool :=
  (fs.find p).toOption.any (·.2 != .directory)

/-! ### Reading and writing -/

/-- The contents of a file. -/
def read (fs : Files) (p : Path) : Except Fault (List UInt8) := do
  match ← fs.find p with
  | (_, .file contents) => return contents
  | (_, .directory) => throw .directory

/-- The contents of a file, as text. -/
def readText (fs : Files) (p : Path) : Except Fault String := do
  (Utf8.decode (← fs.read p)).mapError fun _ ↦ .notText

/-- A path without slashes at its end, unless it has nothing else. -/
def withoutEndSlashes (p : Path) : Path :=
  match (p.text.toList.reverse.dropWhile (· == '/')).reverse with
  | [] => ⟨if p.isAbsolute then "/" else ""⟩
  | kept => ⟨String.ofList kept⟩

/-- Sets the contents of a file that is there, or of a new one in a directory that is there. A path
with a slash at its end names a directory. -/
def write (fs : Files) (p : Path) (contents : List UInt8) : Except Fault Files := do
  let place ← fs.locate (withoutEndSlashes p)
  if fs.entryAt? place = some .directory || p.text.toList.getLast? == some '/' then throw .directory
  else return fs.putFile place contents

/-! ### Walking -/

/-- The names from one place to another below it, if it is below. -/
def namesBelow? : Place → Place → Option (List String)
  | [], rest => some rest
  | _ :: _, [] => none
  | name :: base, name' :: rest => if name = name' then namesBelow? base rest else none

/-- What is met on a walk from a place, in order: the names on the way, and what they lead to. **A
walk does not enter what it skips**, so what is met has nothing skipped on the way to it. -/
def walk (fs : Files) (skip : List String → Entry → Bool) (base : Place) :
    List (List String × Entry) :=
  let met := fs.entries.entries.filterMap fun (place, entry) ↦
    (namesBelow? base place).map fun names ↦ (names, entry)
  let skipped := met.filter fun (names, entry) ↦ !names.isEmpty && skip names entry
  met.filter fun (names, _) ↦
    !names.isEmpty && !skipped.any fun (names', _) ↦ names'.isPrefixOf names

end Files

end JavaDeps
