import JavaDeps.Json.Value
import JavaDeps.Resolve.Run

/-!
# Reports as JSON

The results of resolution as JSON, fields in the order in which they are written.
-/

namespace JavaDeps.Resolve

open Json (Value)

/-- Paths as JSON. -/
def pathsJson (paths : List Path) : Value := .strings (paths.map (·.text))

/-- Labels as JSON. -/
def labelsJson (labels : List Label) : Value := .strings (labels.map (·.text))

/-- An artifact as JSON. -/
def artifactJson (a : Maven.Artifact) : Value :=
  .object [("coordinate", .string a.coordinate.text), ("label", .string a.label.text)]

/-- An ambiguity as JSON. -/
def Ambiguity.json (a : Ambiguity) : Value :=
  .object <| ("symbol", .string a.symbol) ::
    match a.kind with
    | .localDeclaration directories =>
      [("kind", .string "local_declaration"), ("directories", pathsJson directories)]
    | .coordinate artifacts =>
      [("kind", .string "coordinate"), ("artifacts", .array (artifacts.map artifactJson))]
    | .wildcardImport candidates =>
      [("kind", .string "wildcard_import"), ("candidates", .strings candidates)]

/-- The report of a unit as JSON. -/
def UnitReport.json (r : UnitReport) : Value :=
  .object [("unresolved", .strings r.unresolved.toList),
    ("ambiguities", .array (r.ambiguities.map Ambiguity.json))]

/-- The fields of a resolution. -/
def UnitResolution.fields (r : UnitResolution) : List (String × Value) :=
  [("directory", .string r.directory.text), ("kind", .string r.kind.name),
    ("label", .string r.label.text), ("deps", labelsJson r.deps),
    ("runtime_deps", labelsJson r.runtimeDeps), ("report", r.report.json)]

/-- An outcome as JSON. -/
def UnitOutcome.json : UnitOutcome → Value
  | .resolved r => .object (("status", .string "resolved") :: r.fields)
  | .skipped directory failure =>
    .object [("status", .string "skipped"), ("directory", .string directory.text),
      ("error", .string failure.message)]

/-- A report as JSON. -/
def RunReport.json (r : RunReport) : Value :=
  .object [("units", .array (r.units.map UnitOutcome.json)), ("parsed_files", .nat r.parsedFiles)]

end JavaDeps.Resolve
