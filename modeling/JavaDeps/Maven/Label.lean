import JavaDeps.Maven.Coordinate

/-!
# Build labels

A label names a build target. Labels are compared as texts, which is what makes sorted lists of
labels reproducible. A text has **label shape** when it starts with `//`, or with `@` and holds a
`//`, and has no white space.
-/

namespace JavaDeps

/-- The name of a build target, as a text. That it has the shape of a label is checked where texts
from outside come in. -/
structure Label where
  text : String
  deriving DecidableEq, Repr, Inhabited

namespace Label

/-- Labels compare as texts. -/
instance : Ord Label where
  compare := compareOn text

instance : Std.TransOrd Label :=
  inferInstanceAs (Std.TransCmp (compareOn text))

instance : Std.LawfulEqOrd Label where
  compare_self := Std.ReflOrd.compare_self
  eq_of_compare {a b} h := by
    have : a.text = b.text := Std.LawfulEqOrd.eq_of_compare (α := String) h
    cases a; cases b; simp_all

/-- Whether two slashes follow each other somewhere. -/
def hasDoubleSlash : List Char → Bool
  | '/' :: '/' :: _ => true
  | _ :: rest => hasDoubleSlash rest
  | [] => false

/-- Whether characters have label shape: there is no white space among them, and they begin with two
slashes, or else with an `@` and have two slashes in a row somewhere. -/
def isLabelShape (cs : List Char) : Bool :=
  !cs.any Unicode.isWhiteSpace
    && (['/', '/'].isPrefixOf cs || cs.head? == some '@' && hasDoubleSlash cs)

/-- The label with a text of label shape. -/
def parse? (text : String) : Option Label :=
  if isLabelShape text.toList then some ⟨text⟩ else none

/-- A character of a target's name: letters and digits stay, everything else becomes `_`. -/
def targetChar (c : Char) : Char :=
  if c.isAlphanum then c else '_'

/-- The label of an artifact in a repository: `@repository//:group_artifact`, with the classifier at
the end if there is one. -/
def ofCoordinate (repository : String) (c : Maven.Coordinate) : Label :=
  let name := "_".intercalate ([c.group, c.artifact] ++ c.classifier.toList)
  ⟨"@" ++ repository ++ "//:" ++ String.ofList (name.toList.map targetChar)⟩

end Label

end JavaDeps
