import JavaDeps.Java.Facts
import JavaDeps.Json.Decode

/-!
# Facts as JSON

The facts of a source file as workers send them. Every field may be left out; sets are written in
order and read from lists in any order.
-/

namespace JavaDeps.Java

open Json (Value)

/-- The facts as JSON. -/
def Facts.json (f : Facts) : Value :=
  .object [
    ("package", .string f.package),
    ("declaredTypes", .strings f.declaredTypes),
    ("imports", .strings f.imports.toList),
    ("wildcardImports", .strings f.wildcardImports.toList),
    ("qualifiedReferences", .strings f.qualifiedReferences.toList),
    ("simpleNames", .strings f.simpleNames.toList),
    ("reflectiveReferences", .strings f.reflectiveReferences.toList)]

/-- Decodes a set of texts. -/
def decodeNames : Json.Decoder (SortedSet String) := fun r ↦
  (Json.decodeList Json.decodeString r).map SortedSet.ofList

/-- The shape of facts. -/
def factsShape : Json.RecordShape Facts where
  name := "ParseResult"
  blank := {}
  fields := [
    ⟨"package", fun r f ↦ do return { f with package := ← Json.decodeString r }, false⟩,
    ⟨"declaredTypes", fun r f ↦ do
      return { f with declaredTypes := ← Json.decodeList Json.decodeString r }, false⟩,
    ⟨"imports", fun r f ↦ do return { f with imports := ← decodeNames r }, false⟩,
    ⟨"wildcardImports", fun r f ↦ do return { f with wildcardImports := ← decodeNames r }, false⟩,
    ⟨"qualifiedReferences", fun r f ↦ do
      return { f with qualifiedReferences := ← decodeNames r }, false⟩,
    ⟨"simpleNames", fun r f ↦ do return { f with simpleNames := ← decodeNames r }, false⟩,
    ⟨"reflectiveReferences", fun r f ↦ do
      return { f with reflectiveReferences := ← decodeNames r }, false⟩]

end JavaDeps.Java
