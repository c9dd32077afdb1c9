import JavaDeps.Digest.Blake3
import JavaDeps.Java.Scan
import JavaDeps.Path
import JavaDeps.Text.Utf8

/-!
# Source files

A source file is a path and its contents. Its **stamp**, the hash of the contents, stands for them:
files with one stamp hold the same facts.
-/

namespace JavaDeps

/-- The hash of a file's contents, which stands for them: whether a file has changed is decided by
its stamp alone. -/
structure Stamp where
  bytes : List UInt8
  deriving DecidableEq, Repr

namespace Stamp

/-- The stamp of contents. -/
def ofBytes (contents : List UInt8) : Stamp := ⟨Blake3.hash contents⟩

/-- The stamp of a text. -/
def ofText (contents : String) : Stamp := ofBytes (Utf8.encode contents)

/-- The two digits of a byte. -/
def byteDigits (b : UInt8) : List Char :=
  [Nat.digitChar (b.toNat / 16), Nat.digitChar (b.toNat % 16)]

/-- The stamp in hexadecimal digits. -/
def hex (s : Stamp) : String := String.ofList (s.bytes.flatMap byteDigits)

/-- The first twelve digits. -/
def short (s : Stamp) : String := String.ofList ((s.bytes.flatMap byteDigits).take 12)

end Stamp

/-- A Java source file: its path as it is seen from the workspace, and the text that was read from
it. -/
structure SourceFile where
  path : Path
  contents : String
  deriving DecidableEq, Repr

namespace SourceFile

/-- The stamp of the contents. -/
def stamp (f : SourceFile) : Stamp := .ofText f.contents

/-- The directory that holds the file; empty for a file that no directory holds. -/
def directory (f : SourceFile) : Path := (f.path.parent?).getD ⟨""⟩

end SourceFile

end JavaDeps
