import JavaDeps.Json.Decode

/-!
# Lock files

A lock file lists Maven artifacts with the classes that they provide. It is a JSON text;
`LockFile.read` and `LockFile.json` are its two directions.
-/

namespace JavaDeps.Maven

open Json (Value)

/-- An artifact as a lock file lists it, before anything of it is checked: its coordinate, its label
if there is one, and its classes. -/
structure LockedArtifact where
  coordinate : String
  label : Option String := none
  /-- The full names of the classes that the artifact provides. -/
  classes : List String := []
  deriving DecidableEq, Repr

/-- A lock file as it is written: a version, a repository for the artifacts without labels, and the
artifacts in order. -/
structure LockFile where
  version : Nat
  /-- The repository that labels are derived from where an artifact has none. -/
  repository : Option String := none
  artifacts : List LockedArtifact
  deriving DecidableEq, Repr

/-- The version that can be read. -/
def supportedVersion : Nat := 1

/-! ### Writing -/

/-- An artifact as JSON; an absent label is left out. -/
def LockedArtifact.json (a : LockedArtifact) : Value :=
  .object <|
    [("coordinate", .string a.coordinate)] ++ Value.optional "label" .string a.label
      ++ [("classes", .strings a.classes)]

/-- A lock file as JSON; an absent repository is left out. -/
def LockFile.json (l : LockFile) : Value :=
  .object <|
    [("version", .nat l.version)] ++ Value.optional "repository" .string l.repository
      ++ [("artifacts", .array (l.artifacts.map LockedArtifact.json))]

/-! ### Reading -/

/-- The shape of an artifact. -/
def lockedArtifactShape : Json.RecordShape LockedArtifact where
  name := "LockedArtifact"
  blank := ⟨"", none, []⟩
  fields := [
    ⟨"coordinate", fun r a ↦ do return { a with coordinate := ← Json.decodeString r }, true⟩,
    ⟨"label", fun r a ↦ do return { a with label := ← Json.decodeOption Json.decodeString r },
      false⟩,
    ⟨"classes", fun r a ↦ do return { a with classes := ← Json.decodeList Json.decodeString r },
      false⟩]

/-- The shape of a lock file. -/
def lockFileShape : Json.RecordShape LockFile where
  name := "LockFile"
  blank := ⟨0, none, []⟩
  fields := [
    ⟨"version", fun r l ↦ do return { l with version := ← Json.decodeU32 r }, true⟩,
    ⟨"repository", fun r l ↦ do
      return { l with repository := ← Json.decodeOption Json.decodeString r }, false⟩,
    ⟨"artifacts", fun r l ↦ do
      return { l with artifacts := ← Json.decodeList lockedArtifactShape.decode r }, true⟩]

/-- Why bytes are no lock file. -/
inductive LockFileError where
  | json (e : Json.DecodeError)
  | unsupportedVersion (found : Nat)
  deriving DecidableEq, Repr

/-- Reads a lock file: JSON of the right shape first, with fields in any order and unknown ones left
out, and then a version that is supported. -/
def LockFile.read (bytes : List UInt8) : Except LockFileError LockFile :=
  match Json.decodeSymbols lockFileShape.decode (Utf8.symbols bytes) with
  | .error e => .error (.json e)
  | .ok l => if l.version = supportedVersion then .ok l else .error (.unsupportedVersion l.version)

end JavaDeps.Maven
