import JavaDeps.Java.Facts
import JavaDeps.Java.Lexemes
import JavaDeps.Java.Outline
import JavaDeps.Java.Reference

/-!
# Scanning a compilation unit

A source text is cut into lexemes, outlined, and read once more for references. **A simple name is
kept only if the file itself does not explain it**: as a type it declares, as a type parameter, or
as a name it imports.
-/

namespace JavaDeps.Java

/-- The lexemes with the outline's claims: what an outline accounts for is no reference, whatever
stands around it. -/
def Outline.mark (o : Outline) (ls : List Lexeme) : List MarkedLexeme :=
  ls.mapIdx fun i l ↦ ⟨l, o.claimed.contains i⟩

/-- Whether the outline explains a simple name: the unit declares it at any depth, has it as a type
parameter, or imports it by a single import. -/
def Outline.explains (o : Outline) (name : String) : Bool :=
  o.declaredNames.contains name || o.typeParameters.contains name
    || (o.imports.filterMap (·.simpleName?)).contains name

/-- The simple name that a reference is a candidate for. -/
def Reference.simple? : Reference → Option String
  | .simple name => some name
  | _ => none

/-- The qualified name of a reference. -/
def Reference.qualified? : Reference → Option String
  | .qualified name => some name
  | _ => none

/-- The class that a reference names in a literal. -/
def Reference.reflective? : Reference → Option String
  | .reflective name => some name
  | _ => none

/-- The facts that an outline and the references under it come to. Names that the outline explains
are left out of the simple ones, and out of no others. -/
def Outline.facts (o : Outline) (references : List Reference) : Facts where
  package := dotted o.package
  declaredTypes := o.topLevelTypes
  imports := .ofList (o.imports.filterMap (·.type?))
  wildcardImports := .ofList (o.imports.filterMap (·.package?))
  qualifiedReferences := .ofList (references.filterMap (·.qualified?))
  simpleNames := (SortedSet.ofList (references.filterMap (·.simple?))).filter (!o.explains ·)
  reflectiveReferences := .ofList (references.filterMap (·.reflective?))

/-- The facts in a list of lexemes. -/
def scanLexemes (ls : List Lexeme) : Except ScanError Facts :=
  (outline ls).map fun o ↦ o.facts (referencesFrom [] (o.mark ls))

/-- The facts in a source text, or why it is refused: an enclosure that is not closed comes first,
and then what the outline finds at fault. -/
def scan (source : String) : Except ScanError Facts :=
  lexemes source >>= scanLexemes

end JavaDeps.Java
