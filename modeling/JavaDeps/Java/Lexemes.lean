import JavaDeps.Java.Piece

/-!
# Lexemes of a source text

The source text is cut into pieces and the tokens among them are kept, each with the byte at which
it starts. Reading fails at the first enclosure that is never closed.
-/

namespace JavaDeps.Java

/-- The number of bytes that characters take in UTF-8. -/
def byteLength (cs : List Char) : Nat :=
  cs.foldr (fun c n ↦ c.utf8Size + n) 0

/-- The lexemes of `cs`, which starts at byte `offset` of the whole text. -/
def lexemesFrom (offset : Nat) : List Char → Except ScanError (List Lexeme)
  | [] => .ok []
  | c :: rest =>
    let piece := pieceAt c rest
    let text := c :: rest.take piece.more
    let after := lexemesFrom (offset + byteLength text) (rest.drop piece.more)
    match piece.kind with
    | .token kind => after.map (⟨kind, String.ofList text, offset⟩ :: ·)
    | .blank | .stray => after
    | .unclosed what => .error (.unterminated what offset)
termination_by cs => cs.length
decreasing_by simp only [List.length_cons, List.length_drop]; omega

/-- The lexemes of a source text, in order. An enclosure that is not closed is an error; comments,
blanks and stray characters leave no trace. -/
def lexemes (source : String) : Except ScanError (List Lexeme) :=
  lexemesFrom 0 source.toList

end JavaDeps.Java
