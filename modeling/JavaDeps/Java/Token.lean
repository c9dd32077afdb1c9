/-!
# Java tokens

The kinds of token that matter for dependencies, the lexemes that carry them, and the ways in which
reading a compilation unit fails. **Keywords without a kind of their own are identifiers**: `new`,
`extends` or `public` are told apart by their text alone.
-/

namespace JavaDeps.Java

/-- What a lexeme is. Operators share one kind: they only keep identifiers apart. -/
inductive TokenKind where
  | textBlock | stringLiteral | charLiteral | number
  | packageWord | importWord | staticWord | classWord | interfaceWord | enumWord
  | identifier
  | openBrace | closeBrace | openParen | closeParen | less | greater
  | semicolon | comma | dot | star | atSign | openBracket | closeBracket
  | ellipsis | methodRef | operator
  deriving DecidableEq, Repr

/-- A token in place: its kind, its text and the byte at which it starts. -/
structure Lexeme where
  kind : TokenKind
  text : String
  offset : Nat
  deriving DecidableEq, Repr

/-- Whether the lexeme is the identifier with the given text. -/
def Lexeme.isWord (l : Lexeme) (text : String) : Bool :=
  l.kind == .identifier && l.text == text

/-- The keywords that a token kind of their own stands for. -/
def keywordKinds : List (String × TokenKind) :=
  [("package", .packageWord), ("import", .importWord), ("static", .staticWord),
    ("class", .classWord), ("interface", .interfaceWord), ("enum", .enumWord)]

/-- The kind of a word: a keyword's own, or an identifier. -/
def wordKind (text : String) : TokenKind :=
  ((keywordKinds.find? (·.1 == text)).map (·.2)).getD .identifier

/-! ### Failures -/

/-- A construct with a closing delimiter that may be missing. A source with one that is never closed
has no lexemes at all. -/
inductive Enclosure where
  | blockComment | textBlock
  deriving DecidableEq, Repr

/-- The name of the construct in messages. -/
def Enclosure.name : Enclosure → String
  | .blockComment => "block comment"
  | .textBlock => "text block"

/-- A statement that names a package. -/
inductive StatementKind where
  | package | importing
  deriving DecidableEq, Repr

/-- The name of the statement in messages. -/
def StatementKind.name : StatementKind → String
  | .package => "package"
  | .importing => "import"

/-- Why a compilation unit was refused, and at which byte: an enclosure that is never closed, a
brace without its partner, or a statement that breaks off. -/
inductive ScanError where
  | unterminated (what : Enclosure) (offset : Nat)
  | unbalancedBraces (offset : Nat)
  | malformed (statement : StatementKind) (offset : Nat)
  deriving DecidableEq, Repr

/-- The text of a refusal. -/
def ScanError.message : ScanError → String
  | .unterminated what offset =>
    "unterminated " ++ what.name ++ " starting at byte " ++ toString offset
  | .unbalancedBraces offset => "unbalanced braces at byte " ++ toString offset
  | .malformed statement offset =>
    "malformed " ++ statement.name ++ " statement at byte " ++ toString offset

end JavaDeps.Java
