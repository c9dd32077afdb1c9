import JavaDeps.Text.Lines
import JavaDeps.Wire.Message

/-!
# The reference worker

A worker answers requests, one line each. The reference worker answers with what the scanner finds,
passes over blank lines, and **stops at the first line that is no request**, since it has no number
to answer with.
-/

namespace JavaDeps.Worker

/-- The response to a request: the facts of the file or the reason to refuse it, under the id of the
request. -/
def respond (q : Wire.Request) : Wire.Response :=
  .ofOutcome q.id ((Java.scan q.contents).mapError (·.message))

/-- What the worker does with a line. -/
inductive Reply where
  /-- Nothing: the line is blank. -/
  | silence
  | response (r : Wire.Response)
  /-- It gives up. -/
  | quit
  deriving DecidableEq

/-- What the worker does with a line: it answers a request, passes over a blank line, and gives up
on anything else. -/
def reply (line : String) : Reply :=
  if line.toList.all Unicode.isWhiteSpace then .silence
  else
    match Wire.Request.parse line with
    | .ok request => .response (respond request)
    | .error _ => .quit

/-- How a worker ends: what it wrote, and its exit code. -/
structure Transcript where
  responses : List Wire.Response
  exitCode : Nat
  deriving DecidableEq

/-- The text that the worker writes: one line for each response. -/
def Transcript.output (t : Transcript) : String :=
  String.join (t.responses.map (·.line ++ "\n"))

/-- The worker at work on lines, one after another, until they end or one of them is no request. -/
def serve : List String → Transcript
  | [] => ⟨[], 0⟩
  | line :: rest =>
    match reply line with
    | .silence => serve rest
    | .response r =>
      let t := serve rest
      { t with responses := r :: t.responses }
    | .quit => ⟨[], 1⟩

/-- The worker at work on all that its standard input holds. -/
def run (input : String) : Transcript := serve (Text.lines input)

end JavaDeps.Worker
