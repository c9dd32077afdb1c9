import JavaDeps.Pool.Failure
import JavaDeps.Source.File

/-!
# Parsers

A parser turns source files into facts, many at a time. It may keep a state from one call to the
next, as a pool of workers does; the scanner in this library keeps none.
-/

namespace JavaDeps

/-- What parsing a file comes to: its facts, or else a failure, of the file or of the workers that
it was given to. -/
abbrev ParseOutcome := Except Pool.ParseFailure Java.Facts

/-- A parser with states of type `σ`: the outcomes of files, in the order of the files. -/
abbrev Parser (σ : Type) := List SourceFile → σ → List ParseOutcome × σ

/-- The facts that the scanner finds in a file, or its error as a refusal of the file. This is what
every worker is to answer. -/
def SourceFile.scan (file : SourceFile) : ParseOutcome :=
  match Java.scan file.contents with
  | .ok facts => .ok facts
  | .error e => .error (.refused file.path e.message)

/-- The scanner as a parser: it has no state, and files do not influence one another. -/
def Parser.scanner : Parser Unit := fun files s ↦ (files.map (·.scan), s)

end JavaDeps
