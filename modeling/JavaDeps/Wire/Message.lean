import JavaDeps.Source.File
import JavaDeps.Wire.Facts

/-!
# Messages between a pool and its workers

Both directions carry one JSON object on each line. A request names a file and holds its contents; a
response has the request's number and **either facts or an error**. A response with both or neither
is well formed but answers nothing.
-/

namespace JavaDeps.Wire

open Json (Value)

/-- A request to read a source file: an id, which the response will repeat, and the path and the
text of the file. -/
structure Request where
  id : Nat
  path : String
  contents : String
  deriving DecidableEq, Repr

namespace Request

/-- The request for a file. -/
def ofFile (id : Nat) (f : SourceFile) : Request := ⟨id, f.path.text, f.contents⟩

/-- A request as JSON. -/
def json (r : Request) : Value :=
  .object [("id", .nat r.id), ("path", .string r.path), ("contents", .string r.contents)]

/-- A request as a line: compact JSON, in which line breaks are escaped. -/
def line (r : Request) : String := r.json.compact

/-- The shape of a request. -/
def shape : Json.RecordShape Request where
  name := "WorkerRequest"
  blank := ⟨0, "", ""⟩
  fields := [
    ⟨"id", fun r q ↦ do return { q with id := ← Json.decodeU64 r }, true⟩,
    ⟨"path", fun r q ↦ do return { q with path := ← Json.decodeString r }, true⟩,
    ⟨"contents", fun r q ↦ do return { q with contents := ← Json.decodeString r }, true⟩]

/-- Reads a line as a request. -/
def parse (line : String) : Except Json.DecodeError Request :=
  Json.decodeText shape.decode line

end Request

/-- A worker's response: the id of the request, with the facts or an error. A response with both or
with neither can be written down, but it is no answer. -/
structure Response where
  id : Nat
  result : Option Java.Facts := none
  error : Option String := none
  deriving DecidableEq

/-- What a worker says about a file: its facts, or why it has none. -/
abbrev Outcome := Except String Java.Facts

namespace Response

/-- The response that carries an outcome. -/
def ofOutcome (id : Nat) : Outcome → Response
  | .ok facts => { id, result := some facts }
  | .error message => { id, error := some message }

/-- The outcome of a response; a response that carries both or neither has none. -/
def outcome? (r : Response) : Option Outcome :=
  match r.result, r.error with
  | some facts, none => some (.ok facts)
  | none, some message => some (.error message)
  | _, _ => none

/-- A response as JSON; absent fields are left out. -/
def json (r : Response) : Value :=
  .object <|
    [("id", .nat r.id)] ++ Value.optional "result" Java.Facts.json r.result
      ++ Value.optional "error" .string r.error

/-- A response as a line. -/
def line (r : Response) : String := r.json.compact

/-- The shape of a response. -/
def shape : Json.RecordShape Response where
  name := "WorkerResponse"
  blank := { id := 0 }
  fields := [
    ⟨"id", fun r p ↦ do return { p with id := ← Json.decodeU64 r }, true⟩,
    ⟨"result", fun r p ↦ do
      return { p with result := ← Json.decodeOption Java.factsShape.decode r }, false⟩,
    ⟨"error", fun r p ↦ do
      return { p with error := ← Json.decodeOption Json.decodeString r }, false⟩]

/-- Reads a line as a response. -/
def parse (line : String) : Except Json.DecodeError Response :=
  Json.decodeText shape.decode line

end Response

end JavaDeps.Wire
