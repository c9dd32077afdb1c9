import JavaDeps.Unicode.Property

/-!
# Maven coordinates

`group:artifact[:packaging[:classifier]]:version`. The five parts are kept apart, and
`Coordinate.text` puts them back: **a text that is a coordinate is the text of what it reads as**.
-/

namespace JavaDeps.Maven

/-- A Maven coordinate: group, artifact and version, with a packaging and a classifier where these
are given. -/
structure Coordinate where
  group : String
  artifact : String
  packaging : Option String
  classifier : Option String
  version : String
  deriving DecidableEq, Repr

/-- Why a text is no coordinate. -/
inductive CoordinateFault where
  | emptySegment
  | blankInSegment
  | segmentCount
  deriving DecidableEq, Repr

/-- The text of a fault. -/
def CoordinateFault.message : CoordinateFault → String
  | .emptySegment => "empty segment"
  | .blankInSegment => "segments may not contain whitespace"
  | .segmentCount => "expected group:artifact[:packaging[:classifier]]:version"

namespace Coordinate

/-- The segments of a coordinate, in order. -/
def segments (c : Coordinate) : List String :=
  [c.group, c.artifact] ++ c.packaging.toList ++ c.classifier.toList ++ [c.version]

/-- The text of a coordinate. -/
def text (c : Coordinate) : String :=
  ":".intercalate c.segments

/-- The artifact whatever its version: `group:artifact`. -/
def versionless (c : Coordinate) : String :=
  c.group ++ ":" ++ c.artifact

/-- The coordinate with these segments, if there are three, four or five. -/
def ofSegments? : List String → Option Coordinate
  | [group, artifact, version] => some ⟨group, artifact, none, none, version⟩
  | [group, artifact, packaging, version] => some ⟨group, artifact, some packaging, none, version⟩
  | [group, artifact, packaging, classifier, version] =>
    some ⟨group, artifact, some packaging, some classifier, version⟩
  | _ => none

/-- Reads a coordinate: three to five segments between colons, none of them empty and none with
white space in it. -/
def parse (text : String) : Except CoordinateFault Coordinate :=
  let segments := text.toList.splitOn ':'
  if segments.any (·.all Unicode.isWhiteSpace) then .error .emptySegment
  else if segments.any (·.any Unicode.isWhiteSpace) then .error .blankInSegment
  else match ofSegments? (segments.map String.ofList) with
    | some c => .ok c
    | none => .error .segmentCount

end Coordinate

/-- The order of two coordinates, by their parts. -/
instance : Ord Coordinate where
  compare :=
    compareLex (compareOn Coordinate.group) <| compareLex (compareOn Coordinate.artifact) <|
      compareLex (compareOn Coordinate.packaging) <|
        compareLex (compareOn Coordinate.classifier) (compareOn Coordinate.version)

instance : Std.TransOrd Coordinate :=
  inferInstanceAs (Std.TransCmp (compareLex _ _))

instance : Std.LawfulEqOrd Coordinate where
  compare_self := Std.ReflOrd.compare_self
  eq_of_compare {a b} h := by
    cases a
    cases b
    change compareLex _ _ _ _ = _ at h
    simp_all [compareLex_eq_eq, compareOn]

end JavaDeps.Maven
