import JavaDeps.Java.Name
import JavaDeps.Java.Token

/-!
# References in a compilation unit

The second reading of the lexemes finds the types that the file refers to. An identifier that
follows no dot heads a chain `a.b.C.d`; the chain is read whole and reading goes on after it. **A
name without lower-case letters is taken for a constant** unless the lexemes around the chain leave
room for a type only.
-/

namespace JavaDeps.Java

/-- A lexeme, and whether the outline claimed it. -/
structure MarkedLexeme extends Lexeme where
  claimed : Bool
  deriving DecidableEq, Repr

/-- A reference to a type: by a simple name, by a name in full, or by a string literal that some
call looks a class up by. -/
inductive Reference where
  | simple (name : String)
  | qualified (name : String)
  | reflective (name : String)
  deriving DecidableEq, Repr

/-- Words that break a chain off from what it could name. -/
def selfWords : List String := ["this", "super"]

/-- Words that a type follows. -/
def typeWords : List String := ["new", "extends", "implements", "throws", "instanceof"]

/-- The calls whose string argument names a class. -/
def reflectiveCalls : List String := ["forName", "loadClass"]

/-- The segments that follow the head of a chain. -/
def chainTail : List MarkedLexeme → List String
  | d :: s :: rest =>
    if d.kind = .dot ∧ s.kind = .identifier then s.text :: chainTail rest else []
  | _ => []

/-- Whether the kind of the first lexeme is one of those listed. -/
def startsWithKind (ls : List MarkedLexeme) (kinds : List TokenKind) : Bool :=
  ls.head?.any fun l ↦ kinds.contains l.kind

/-- Whether a chain between `before` (nearest lexeme first) and `after` can only be a type, going by
the lexeme before it and up to three behind it. -/
def inTypePosition (before after : List MarkedLexeme) : Bool :=
  (before.head?.any fun l ↦ l.kind == .identifier && typeWords.contains l.text) ||
    match after with
    | [] => false
    | next :: more =>
      match next.kind with
      | .greater =>
        startsWithKind before [.less]
          || startsWithKind before [.comma]
            && startsWithKind more [.identifier, .greater, .closeParen]
      | .comma => startsWithKind before [.less]
      | .identifier => next.text != "instanceof"
      | .ellipsis | .methodRef => true
      | .openBracket => startsWithKind more [.closeBracket]
      | .dot => startsWithKind more [.classWord]
      | .less =>
        startsWithKind more [.greater, .operator]
          || startsWithKind more [.identifier]
            && startsWithKind (more.drop 1) [.greater, .comma, .less]
      | _ => false

/-- The reference that a chain makes between `before` and `after`. It is simple if the head is
capitalised, and qualified if two packages or more come before a type. -/
def chainReference? (head : String) (tail : List String) (before after : List MarkedLexeme) :
    Option Reference :=
  if isCapitalized head then
    if hasLowercase head || inTypePosition before after then some (.simple head) else none
  else if selfWords.contains head then none
  else
    let packages := (head :: tail).takeWhile (!isCapitalized ·)
    match (head :: tail).drop packages.length with
    | [] => none
    | type :: members =>
      if 2 ≤ packages.length
          && (hasLowercase type || !members.isEmpty || inTypePosition before after) then
        some (.qualified (dotted (packages ++ [type])))
      else none

/-- The reference that a string literal makes after `before`, as the argument of a reflective
call. -/
def literalReference? (literal : String) : List MarkedLexeme → Option Reference
  | p :: call :: _ =>
    if p.kind = .openParen ∧ call.kind = .identifier ∧ reflectiveCalls.contains call.text then
      (className? literal).map .reflective
    else none
  | _ => none

/-- The references in the lexemes ahead; `before` lies behind, nearest first. -/
def referencesFrom (before : List MarkedLexeme) : List MarkedLexeme → List Reference
  | [] => []
  | l :: rest =>
    if l.claimed then referencesFrom (l :: before) rest
    else if l.kind = .identifier ∧ !startsWithKind before [.dot] then
      let tail := chainTail rest
      let after := rest.drop (2 * tail.length)
      (chainReference? l.text tail before after).toList
        ++ referencesFrom ((rest.take (2 * tail.length)).reverse ++ l :: before) after
    else if l.kind = .stringLiteral then
      (literalReference? l.text before).toList ++ referencesFrom (l :: before) rest
    else referencesFrom (l :: before) rest
termination_by ls => ls.length
decreasing_by all_goals simp only [List.length_cons, List.length_drop]; omega

end JavaDeps.Java
