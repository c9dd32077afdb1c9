import JavaDeps.Java.Import

/-!
# The outline of a compilation unit

The first reading of the lexemes finds the package and import statements, the names that the file
declares, and its type parameters, and checks that braces balance. **A lexeme used up by one of
these is claimed**: it is no reference, whatever it looks like. Claims are positions in the list of
lexemes.

A reading is a recursion on the lexemes still ahead. The lexemes behind are kept in reverse, so that
looking behind is matching on their head.
-/

namespace JavaDeps.Java

/-- What the first reading of the lexemes finds: the statements outside all braces, the declared
types and type parameters, and which lexemes these account for. -/
structure Outline where
  /-- The segments of the last package statement. -/
  package : List String := []
  /-- The import statements, in order. -/
  imports : List Import := []
  /-- The types declared outside all braces, in order and without repetition. -/
  topLevelTypes : List String := []
  /-- The types declared anywhere. -/
  declaredNames : List String := []
  /-- The names of type parameters. -/
  typeParameters : List String := []
  /-- The positions of claimed lexemes. -/
  claimed : List Nat := []
  deriving DecidableEq, Repr

/-- Words that may stand right before a list of type parameters. -/
def modifiers : List String :=
  ["public", "protected", "private", "abstract", "final", "native", "synchronized", "default",
    "strictfp", "sealed"]

/-- Whether the lexemes behind, nearest first, start with one of a kind. -/
def endsWithKind (before : List Lexeme) (kind : TokenKind) : Bool :=
  before.head?.any (·.kind == kind)

/-- Whether a `<` after these lexemes opens a list of type parameters: after a modifier, after the
name in a declaration, or where a member starts. -/
def opensTypeParameters : List Lexeme → Bool
  | [] => false
  | prev :: before =>
    match prev.kind with
    | .identifier =>
      modifiers.contains prev.text
        || before.head?.any fun l ↦
          l.kind == .classWord || l.kind == .interfaceWord || l.isWord "record"
    | .staticWord | .openBrace | .closeBrace | .semicolon => true
    | _ => false

/-- The type parameters of a list, with their positions: the identifiers at angle depth one that
follow the opening bracket or a comma. The list ends with its closing bracket, or where no list can
go on. -/
def typeParametersFrom (depth : Nat) (previous : TokenKind) (position : Nat) :
    List Lexeme → List (Nat × String)
  | [] => []
  | l :: rest =>
    match l.kind with
    | .less => typeParametersFrom (depth + 1) l.kind (position + 1) rest
    | .greater =>
      if depth ≤ 1 then [] else typeParametersFrom (depth - 1) l.kind (position + 1) rest
    | .openBrace | .semicolon | .openParen => []
    | .identifier =>
      let more := typeParametersFrom depth l.kind (position + 1) rest
      if depth = 1 ∧ (previous = .less ∨ previous = .comma) then (position, l.text) :: more
      else more
    | _ => typeParametersFrom depth l.kind (position + 1) rest

/-- Whether a declaration keyword stands between `before` and `rest`. After a dot, `class` is a
literal; `record` declares only when a name and its components or type parameters follow. -/
def declares (before : List Lexeme) (l : Lexeme) (rest : List Lexeme) : Bool :=
  !endsWithKind before .dot &&
    match l.kind with
    | .classWord | .interfaceWord | .enumWord => true
    | .identifier =>
      l.text == "record" && rest.head?.any (·.kind == .identifier)
        && rest[1]?.any fun p ↦ p.kind == .openParen || p.kind == .less
    | _ => false

namespace Outline

/-- Takes in the name of a declaration, if `rest` starts with one. A name that is declared outside
all braces is a top-level type as well. -/
def declare (o : Outline) (topLevel : Bool) (position : Nat) (rest : List Lexeme) : Outline :=
  match rest with
  | [] => o
  | name :: _ =>
    if name.kind ≠ .identifier then o
    else
      { o with
        claimed := position :: o.claimed
        declaredNames := name.text :: o.declaredNames
        topLevelTypes :=
          if topLevel && !o.topLevelTypes.contains name.text then o.topLevelTypes ++ [name.text]
          else o.topLevelTypes }

/-- Takes in the type parameters of a list that starts with `rest`: their names explain simple
names, and their positions are no references. -/
def parametrize (o : Outline) (position : Nat) (rest : List Lexeme) : Outline :=
  let found := typeParametersFrom 1 .less position rest
  { o with
    claimed := found.map (·.1) ++ o.claimed
    typeParameters := found.map (·.2) ++ o.typeParameters }

/-- Takes in a lexeme that is neither a brace nor a statement's keyword. -/
def note (o : Outline) (topLevel : Bool) (before : List Lexeme) (l : Lexeme) (rest : List Lexeme) :
    Outline :=
  if declares before l rest then o.declare topLevel (before.length + 1) rest
  else if l.kind = .less ∧ opensTypeParameters before then o.parametrize (before.length + 1) rest
  else o

/-- Claims `count` lexemes from a position on. -/
def claim (o : Outline) (position count : Nat) : Outline :=
  { o with claimed := List.range' position count ++ o.claimed }

end Outline

/-! ### Statements -/

/-- A statement outside all braces: the package of the unit, or one of its imports. -/
inductive Statement where
  | package (segments : List String)
  | importing (i : Import)
  deriving DecidableEq, Repr

/-- The offset to blame: the first of the lexemes, or `final` when none is left. -/
def blame (final : Nat) (ls : List Lexeme) : Nat :=
  (ls.head?.map (·.offset)).getD final

/-- Reads the statement that the keyword `l` opens; with it comes the number of lexemes of `rest`
that belong to it. `final` is the offset of the last lexeme of all. -/
def readStatement (final : Nat) (kind : StatementKind) (l : Lexeme) (rest : List Lexeme) :
    Except ScanError (Statement × Nat) :=
  match kind with
  | .package =>
    match readName rest with
    | .error at_ => .error (.malformed .package (blame final at_))
    | .ok (path, used) =>
      if path.wildcard then .error (.malformed .package l.offset)
      else .ok (.package path.segments, used)
  | .importing =>
    let isStatic := rest.head?.any (·.kind == .staticWord)
    let lead := if isStatic then 1 else 0
    match readName (rest.drop lead) with
    | .error at_ => .error (.malformed .importing (blame final at_))
    | .ok (path, used) => .ok (.importing ⟨isStatic, path⟩, lead + used)

/-- The statement that a keyword opens outside all braces. -/
def statementKind? (depth : Nat) (kind : TokenKind) : Option StatementKind :=
  if depth = 0 then
    match kind with
    | .packageWord => some .package
    | .importWord => some .importing
    | _ => none
  else none

/-- Takes in a statement. Of several package statements the last one counts, and imports are kept in
their order. -/
def Outline.state (o : Outline) : Statement → Outline
  | .package segments => { o with package := segments }
  | .importing i => { o with imports := o.imports ++ [i] }

/-! ### The reading -/

/-- Reads on: `before` lies behind, `depth` braces are open, `final` is the offset of the last
lexeme of all. -/
def outlineFrom (final : Nat) (before : List Lexeme) (depth : Nat) (o : Outline) :
    List Lexeme → Except ScanError Outline
  | [] => if depth = 0 then .ok o else .error (.unbalancedBraces final)
  | l :: rest =>
    match l.kind, depth with
    | .openBrace, _ => outlineFrom final (l :: before) (depth + 1) o rest
    | .closeBrace, 0 => .error (.unbalancedBraces l.offset)
    | .closeBrace, outer + 1 => outlineFrom final (l :: before) outer o rest
    | kind, _ =>
      match statementKind? depth kind with
      | some statement =>
        match readStatement final statement l rest with
        | .error e => .error e
        | .ok (read, used) =>
          outlineFrom final ((rest.take used).reverse ++ l :: before) depth
            ((o.state read).claim before.length (used + 1)) (rest.drop used)
      | none =>
        outlineFrom final (l :: before) depth (o.note (depth == 0) before l rest) rest
termination_by ls => ls.length
decreasing_by all_goals simp only [List.length_cons, List.length_drop]; omega

/-- A closing brace stands at the top or inside of something. -/
theorem kind_ne_closeBrace {depth : Nat} {l : Lexeme} (htop : l.kind = .closeBrace → depth ≠ 0)
    (hinside : ∀ outer, l.kind = .closeBrace → depth ≠ outer + 1) : l.kind ≠ .closeBrace := by
  intro hclose
  cases depth with
  | zero => exact htop hclose rfl
  | succ outer => exact hinside outer hclose rfl

/-- A lexeme that is no brace opens a statement, or is taken in by itself. -/
theorem outlineFrom_cons_of_ne {final depth : Nat} {before rest : List Lexeme} {o : Outline}
    {l : Lexeme} (hopen : l.kind ≠ .openBrace) (hclose : l.kind ≠ .closeBrace) :
    outlineFrom final before depth o (l :: rest) =
      match statementKind? depth l.kind with
      | some kind =>
        match readStatement final kind l rest with
        | .error e => .error e
        | .ok (read, used) =>
          outlineFrom final ((rest.take used).reverse ++ l :: before) depth
            ((o.state read).claim before.length (used + 1)) (rest.drop used)
      | none => outlineFrom final (l :: before) depth (o.note (depth == 0) before l rest) rest := by
  rw [outlineFrom.eq_def]
  dsimp only
  split
  · next h => exact absurd h hopen
  · next h => exact absurd h hclose
  · next h => exact absurd h hclose
  · rfl

/-- The outline of a compilation unit. It fails where a statement is malformed or a brace does not
match, at the leftmost of these places. -/
def outline (ls : List Lexeme) : Except ScanError Outline :=
  outlineFrom ((ls.getLast?.map (·.offset)).getD 0) [] 0 {} ls

end JavaDeps.Java
