import JavaDeps.Java.Token
import JavaDeps.Unicode.Property

/-!
# Pieces of source text

A source text is cut into pieces from left to right, each as long as possible: a token, a stretch
that carries nothing (white space, a comment), a stray stretch that starts no token, or an enclosure
that is never closed. `pieceAt` decides the next piece. **A piece is given by its length in
characters beyond the first**, so cutting it off always leaves less text and never loses any.
-/

namespace JavaDeps.Java

/-- What a piece of source text is. -/
inductive PieceKind where
  | token (kind : TokenKind)
  | blank
  | stray
  | unclosed (what : Enclosure)
  deriving DecidableEq, Repr

/-- A piece: what it is, and how many characters follow its first one. -/
structure Piece where
  kind : PieceKind
  more : Nat
  deriving DecidableEq, Repr

/-! ### Character classes -/

/-- The white space between tokens. Any other white space is a stray character. -/
def isBlank (c : Char) : Bool :=
  c == ' ' || c == '\t' || c == '\r' || c == '\n' || c == '\x0c'

/-- A letter, `_` or `$`. -/
def isWordStart (c : Char) : Bool :=
  Unicode.isLetter c || c == '_' || c == '$'

/-- A letter, a number, `_` or `$`. -/
def isWordPart (c : Char) : Bool :=
  isWordStart c || Unicode.isNumber c

/-- What may follow the first digit of a number. -/
def isNumberPart (c : Char) : Bool :=
  c.isAlphanum || c == '_' || c == '.'

/-- The single characters that are tokens by themselves. -/
def signKind? : Char → Option TokenKind
  | '\x7b' => some .openBrace
  | '\x7d' => some .closeBrace
  | '(' => some .openParen
  | ')' => some .closeParen
  | '<' => some .less
  | '>' => some .greater
  | ';' => some .semicolon
  | ',' => some .comma
  | '.' => some .dot
  | '*' => some .star
  | '@' => some .atSign
  | '[' => some .openBracket
  | ']' => some .closeBracket
  | '=' | '+' | '-' | '!' | '~' | '?' | ':' | '%' | '^' | '&' | '|' | '/' => some .operator
  | _ => none

/-! ### Enclosed text

Each function measures in characters, starting just after the opening delimiter. -/

/-- The length of a block comment's rest through its first closing delimiter. -/
def commentLength? : List Char → Option Nat
  | '*' :: '/' :: _ => some 2
  | _ :: rest => (commentLength? rest).map (· + 1)
  | [] => none

/-- The length of a text block's rest through its first unescaped closing delimiter. A backslash
escapes the character after it. -/
def textBlockLength? : List Char → Option Nat
  | '\\' :: _ :: rest => (textBlockLength? rest).map (· + 2)
  | '"' :: '"' :: '"' :: _ => some 3
  | _ :: rest => (textBlockLength? rest).map (· + 1)
  | [] => none

/-- The body of a literal on one line, up to `quote`: whether the quote is there, and the length
through it. Without one, the length reaches to the end of the line; a backslash right before the
end belongs to the body too. -/
def literalBody (quote : Char) : List Char → Bool × Nat
  | [] => (false, 0)
  | '\\' :: [] => (false, 1)
  | '\\' :: c :: rest =>
    if c = '\n' then (false, 1)
    else
      let (closed, n) := literalBody quote rest
      (closed, n + 2)
  | c :: rest =>
    if c = quote then (true, 1)
    else if c = '\n' then (false, 0)
    else
      let (closed, n) := literalBody quote rest
      (closed, n + 1)

/-- The piece that a literal makes, closed or not. -/
def literalPiece (kind : TokenKind) (body : Bool × Nat) : Piece :=
  ⟨if body.1 then .token kind else .stray, body.2⟩

/-! ### The next piece -/

/-- A piece made of all characters of a class. -/
def spanPiece (kind : PieceKind) (p : Char → Bool) (rest : List Char) : Piece :=
  ⟨kind, (rest.takeWhile p).length⟩

/-- The piece that an enclosure makes; when it is never closed, it is all the text. -/
def enclosedPiece (closed : PieceKind) (what : Enclosure) (opening : Nat) (rest : List Char)
    (length? : Option Nat) : Piece :=
  match length? with
  | some n => ⟨closed, opening + n⟩
  | none => ⟨.unclosed what, opening + rest.length⟩

/-- The piece that a word makes. A keyword is one only where the byte after it could not go on a
word; otherwise it is an identifier like any other. -/
def wordPiece (c : Char) (rest : List Char) : Piece :=
  let tail := rest.takeWhile isWordPart
  let kind :=
    if (rest.drop tail.length).head?.any Unicode.sharesLeadByteWithWord then .identifier
    else wordKind (String.ofList (c :: tail))
  ⟨.token kind, tail.length⟩

/-- The piece at a `/`. -/
def slashPiece : List Char → Piece
  | '/' :: rest => ⟨.blank, 1 + (rest.takeWhile (· != '\n')).length⟩
  | '*' :: rest => enclosedPiece .blank .blockComment 1 rest (commentLength? rest)
  | _ => ⟨.token .operator, 0⟩

/-- The piece at a `"`. Three quotes always open a text block. -/
def quotePiece : List Char → Piece
  | '"' :: '"' :: rest =>
    enclosedPiece (.token .textBlock) .textBlock 2 rest (textBlockLength? rest)
  | rest => literalPiece .stringLiteral (literalBody '"' rest)

/-- The piece at a `'`. Two quotes do not make a literal: the first one is stray. -/
def apostrophePiece : List Char → Piece
  | '\'' :: _ => ⟨.stray, 0⟩
  | rest => literalPiece .charLiteral (literalBody '\'' rest)

/-- The piece at a `.`. -/
def dotPiece : List Char → Piece
  | '.' :: '.' :: _ => ⟨.token .ellipsis, 2⟩
  | _ => ⟨.token .dot, 0⟩

/-- The piece at a `:`. -/
def colonPiece : List Char → Piece
  | ':' :: _ => ⟨.token .methodRef, 1⟩
  | _ => ⟨.token .operator, 0⟩

/-- The piece that starts with `c` when `rest` follows. -/
def pieceAt (c : Char) (rest : List Char) : Piece :=
  if isBlank c then spanPiece .blank isBlank rest
  else if c = '/' then slashPiece rest
  else if c = '"' then quotePiece rest
  else if c = '\'' then apostrophePiece rest
  else if c = '.' then dotPiece rest
  else if c = ':' then colonPiece rest
  else if c.isDigit then spanPiece (.token .number) isNumberPart rest
  else if isWordStart c then wordPiece c rest
  else match signKind? c with
    | some kind => ⟨.token kind, 0⟩
    | none => ⟨.stray, 0⟩

end JavaDeps.Java
