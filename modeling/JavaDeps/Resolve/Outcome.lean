import JavaDeps.Maven.ClassIndex
import JavaDeps.Path
import JavaDeps.Resolve.Classification

/-!
# What becomes of a symbol

Every symbol that a unit refers to has one outcome. A symbol with several providers is reported as
ambiguous, **never decided for one of them**.
-/

namespace JavaDeps.Resolve

/-- Where the several providers of a symbol come from, with all of them, so that a report can list
what there is to choose from. -/
inductive AmbiguityKind where
  /-- Several directories declare the type. -/
  | localDeclaration (directories : List Path)
  /-- Several artifacts provide the class. -/
  | coordinate (artifacts : List Maven.Artifact)
  /-- Several packages imported whole hold a type of the name. -/
  | wildcardImport (candidates : List String)
  deriving DecidableEq, Repr

/-- A symbol with several providers. The symbol is qualified: a simple name stands under its name in
the package of the unit that uses it. -/
structure Ambiguity where
  symbol : String
  kind : AmbiguityKind
  deriving DecidableEq, Repr

/-- The text of an ambiguity: the symbol between backticks, why it is ambiguous, and the providers
in their order with commas in between. -/
def Ambiguity.message (a : Ambiguity) : String :=
  let list := ", ".intercalate
  "`" ++ a.symbol ++
    match a.kind with
    | .localDeclaration directories =>
      "` is declared in several directories: " ++ list (directories.map (·.text))
    | .coordinate artifacts =>
      "` is provided by several artifacts: "
        ++ list (artifacts.map fun a ↦ a.coordinate.text ++ " (" ++ a.label.text ++ ")")
    | .wildcardImport candidates => "` matches several wildcard imports: " ++ list candidates

/-- What becomes of a symbol that a unit refers to. Just one of these: a symbol that has several
providers is not found by any of them, and one that nobody provides is left unresolved. -/
inductive Outcome where
  /-- Another unit or an artifact provides it. -/
  | found (label : Label) (c : Classification)
  /-- The unit itself declares it. -/
  | own
  /-- The platform provides it. -/
  | builtin
  | ambiguous (a : Ambiguity)
  | unresolved
  deriving DecidableEq, Repr

end JavaDeps.Resolve
