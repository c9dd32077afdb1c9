import JavaDeps.Java.Name
import JavaDeps.Java.Token

/-!
# Package and import statements

Both statements are a keyword, a dotted name and a semicolon. `readName` reads the name and the
semicolon; it answers with **the number of lexemes it used**, or with the lexemes that start where
the statement went wrong. What an import brings into scope is `Import.target?`.
-/

namespace JavaDeps.Java

/-- A name with dots, and whether it ended in `.*`. -/
structure NamePath where
  segments : List String
  wildcard : Bool
  deriving DecidableEq, Repr

/-- Reads what follows a segment: more segments, a final `.*`, and the semicolon. `segments` holds
what was read before, and `used` counts its lexemes. -/
def readNameAfter (segments : List String) (used : Nat) :
    List Lexeme → Except (List Lexeme) (NamePath × Nat)
  | [] => .error []
  | l :: rest =>
    if l.kind = .semicolon then .ok (⟨segments, false⟩, used + 1)
    else if l.kind ≠ .dot then .error (l :: rest)
    else match rest with
      | [] => .error []
      | s :: more =>
        if s.kind = .identifier then readNameAfter (segments ++ [s.text]) (used + 2) more
        else if s.kind ≠ .star then .error (s :: more)
        else match more with
          | [] => .error []
          | e :: tail =>
            if e.kind = .semicolon then .ok (⟨segments, true⟩, used + 3) else .error (e :: tail)

/-- Reads a dotted name through its semicolon: the name, with the number of lexemes that were used
for it, or the lexemes from the one on that does not fit. -/
def readName : List Lexeme → Except (List Lexeme) (NamePath × Nat)
  | [] => .error []
  | l :: rest =>
    if l.kind = .identifier then readNameAfter [l.text] 1 rest else .error (l :: rest)

/-! ### Imports -/

/-- An import statement, as it is written: whether it is static, and the name with its wildcard if
it has one. -/
structure Import where
  isStatic : Bool
  path : NamePath
  deriving DecidableEq, Repr

/-- What an import brings into scope: a top-level type, or all types of a package. -/
inductive ImportTarget where
  | type (name : String)
  | package (name : String)
  deriving DecidableEq, Repr

namespace Import

/-- The target of an import. A static import leads to the type that owns the member; a wildcard
leads into a type when its last segment is capitalised, else into a package. -/
def target? (i : Import) : Option ImportTarget :=
  let segments := i.path.segments
  match i.isStatic, i.path.wildcard with
  | false, false => some (.type (topLevelType segments))
  | false, true =>
    if segments.getLast?.any isCapitalized then some (.type (topLevelType segments))
    else some (.package (dotted segments))
  | true, false =>
    let owner := segments.dropLast
    if owner.isEmpty then none else some (.type (topLevelType owner))
  | true, true => some (.type (topLevelType segments))

/-- The simple name that a single import puts into scope. -/
def simpleName? (i : Import) : Option String :=
  if i.isStatic || i.path.wildcard then none else i.path.segments.getLast?

/-- The imported type, if the target is one. -/
def type? (i : Import) : Option String :=
  match i.target? with
  | some (.type name) => some name
  | _ => none

/-- The package imported whole, if the target is one. -/
def package? (i : Import) : Option String :=
  match i.target? with
  | some (.package name) => some name
  | _ => none

end Import

end JavaDeps.Java
