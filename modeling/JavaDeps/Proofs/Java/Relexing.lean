import JavaDeps.Proofs.Java.Erasure
import Mathlib.Data.List.TakeWhile

/-!
# Tokens set apart by blanks

Take the tokens of a source and write them down again with one blank between neighbours: what stood
between them before (white space, comments, stray characters) is gone. **The tokens are cut as
before** (`lexemes_respaced`), for none of them reaches over a blank, or needed what stood behind
it.

Keywords alone may change. A keyword that stands directly before certain stray characters is read as
an identifier; set apart, it is a keyword again. So the scan of the new text is that of the source
whenever no identifier of the source is spelled like a keyword (`scan_respaced`), and can be another
one otherwise (`scan_no_break_space_ne`).
-/

namespace JavaDeps.Java

/-- Whether nothing follows, or a blank. -/
def Delimited (after : List Char) : Prop := ∀ c ∈ after.head?, c = ' '

theorem Delimited.eq_nil_or {after : List Char} (h : Delimited after) :
    after = [] ∨ ∃ more, after = ' ' :: more := by
  rcases after with - | ⟨c, more⟩
  · exact .inl rfl
  · exact .inr ⟨more, by rw [h c rfl]⟩

theorem delimited_nil : Delimited [] := by simp [Delimited]

theorem delimited_blank (after : List Char) : Delimited (' ' :: after) := by simp [Delimited]

/-! ### What makes a token makes it before a blank -/

/-- Whether a way to cut a piece cuts a token off alike when it ends the text or stands before a
blank. Words are cut in another way, so no such token is an identifier. -/
def Stable (piece : List Char → Piece) : Prop :=
  ∀ rest kind n, piece rest = ⟨.token kind, n⟩ →
    kind ≠ .identifier ∧ n ≤ rest.length ∧
      ∀ after, Delimited after → piece (rest.take n ++ after) = ⟨.token kind, n⟩

section Stable

variable {after rest : List Char}

/-- A class without the blank goes no further than before. -/
theorem takeWhile_append_delimited {p : Char → Bool} (hp : p ' ' = false)
    (hafter : Delimited after) :
    (rest.takeWhile p ++ after).takeWhile p = rest.takeWhile p := by
  have hnil : after.takeWhile p = [] := by
    rcases after with - | ⟨c, after⟩
    · rfl
    · rw [hafter c rfl, List.takeWhile_cons, hp]
      rfl
  rw [List.takeWhile_append, List.takeWhile_takeWhile, hnil]
  simp

theorem take_length_takeWhile (p : Char → Bool) :
    rest.take (rest.takeWhile p).length = rest.takeWhile p :=
  (List.prefix_iff_eq_take.1 (List.takeWhile_prefix p)).symm

theorem stable_of_more_eq_zero {piece : Piece} (hkind : piece.kind ≠ .token .identifier)
    (hmore : piece.more = 0) : Stable fun _ ↦ piece := by
  rintro rest kind n rfl
  obtain rfl : n = 0 := hmore
  exact ⟨fun h ↦ hkind (congrArg _ h), Nat.zero_le _, fun after _ ↦ rfl⟩

theorem stable_of_not_token {piece : List Char → Piece}
    (h : ∀ rest kind, (piece rest).kind ≠ .token kind) : Stable piece :=
  fun rest kind _ hpiece ↦ absurd (congrArg Piece.kind hpiece) (h rest kind)

/-- A run of characters of one kind ends at a blank, if a blank is not of that kind. -/
theorem stable_spanPiece {kind : PieceKind} (hkind : kind ≠ .token .identifier) {p : Char → Bool}
    (hp : p ' ' = false) : Stable (spanPiece kind p) := by
  rintro rest k n h
  obtain ⟨rfl, rfl⟩ := Piece.mk.inj h
  refine ⟨fun h ↦ hkind (congrArg _ h), (List.takeWhile_prefix p).length_le, fun after hafter ↦ ?_⟩
  rw [spanPiece, take_length_takeWhile, takeWhile_append_delimited hp hafter]

/-- What a slash begins is the same with a blank behind it: a comment is no token, and an operator
is two characters at most. -/
theorem stable_slashPiece : Stable slashPiece := by
  intro rest kind n h
  rw [slashPiece.eq_def] at h
  split at h
  · cases h
  · rw [enclosedPiece.eq_def] at h
    split at h <;> cases h
  · cases h
    refine ⟨by simp, Nat.zero_le _, fun after hafter ↦ ?_⟩
    rcases hafter.eq_nil_or with rfl | ⟨more, rfl⟩ <;> rfl

theorem stable_dotPiece : Stable dotPiece := by
  intro rest kind n h
  rw [dotPiece.eq_def] at h
  split at h
  · cases h
    exact ⟨by simp, by simp, fun after _ ↦ rfl⟩
  · cases h
    refine ⟨by simp, Nat.zero_le _, fun after hafter ↦ ?_⟩
    rcases hafter.eq_nil_or with rfl | ⟨more, rfl⟩ <;> rfl

theorem stable_colonPiece : Stable colonPiece := by
  intro rest kind n h
  rw [colonPiece.eq_def] at h
  split at h
  · cases h
    exact ⟨by simp, by simp, fun after _ ↦ rfl⟩
  · cases h
    refine ⟨by simp, Nat.zero_le _, fun after hafter ↦ ?_⟩
    rcases hafter.eq_nil_or with rfl | ⟨more, rfl⟩ <;> rfl

/-- A text block ends where it ended, whatever is put behind it. -/
theorem textBlockLength?_take {n : Nat} (h : textBlockLength? rest = some n) (after : List Char) :
    3 ≤ n ∧ n ≤ rest.length ∧ textBlockLength? (rest.take n ++ after) = some n := by
  fun_induction textBlockLength? rest generalizing n with
  | case1 c rest ih =>
    obtain ⟨m, hm, rfl⟩ := Option.map_eq_some_iff.1 h
    obtain ⟨hle, hlength, htake⟩ := ih hm
    refine ⟨by omega, by simp only [List.length_cons]; omega, ?_⟩
    simp [textBlockLength?, htake]
  | case2 rest =>
    obtain rfl := Option.some.inj h
    exact ⟨Nat.le_refl 3, by simp, rfl⟩
  | case3 c rest hescape hquotes ih =>
    obtain ⟨m, hm, rfl⟩ := Option.map_eq_some_iff.1 h
    obtain ⟨hle, hlength, htake⟩ := ih hm
    refine ⟨by omega, by simp only [List.length_cons]; omega, ?_⟩
    -- the next two characters are cut off too, so neither an escape nor the end shows up
    obtain ⟨a, b, more, rfl⟩ : ∃ a b more, rest = a :: b :: more := by
      rcases rest with - | ⟨a, - | ⟨b, more⟩⟩
      · simp at hlength; omega
      · simp at hlength; omega
      · exact ⟨a, b, more, rfl⟩
    obtain ⟨k, rfl⟩ := Nat.exists_eq_add_of_le' (Nat.le_of_succ_le hle)
    rw [List.take_succ_cons, List.cons_append, textBlockLength?]
    · rw [htake]
      rfl
    · exact fun _ _ hc _ ↦ hescape a _ hc rfl
    · rintro tail hc heq
      obtain ⟨ha, heq⟩ := List.cons.inj heq
      obtain ⟨hb, -⟩ := List.cons.inj heq
      exact hquotes more hc (by rw [ha, hb])
  | case4 => cases h

/-- The body of a literal is read character by character, up to the quote or the end of the line. -/
theorem literalBody_cons {quote c : Char} (hc : c ≠ '\\') (rest : List Char) :
    literalBody quote (c :: rest) =
      if c = quote then (true, 1)
      else if c = '\n' then (false, 0)
      else ((literalBody quote rest).1, (literalBody quote rest).2 + 1) := by
  rw [literalBody.eq_def]
  split <;> simp_all

/-- A literal ends where it ended, whatever is put behind it. -/
theorem literalBody_take {quote : Char} {n : Nat} (h : literalBody quote rest = (true, n))
    (after : List Char) :
    1 ≤ n ∧ n ≤ rest.length ∧ literalBody quote (rest.take n ++ after) = (true, n) := by
  fun_induction literalBody quote rest generalizing n with
  | case4 c rest hline closed m heq ih =>
    obtain ⟨rfl, rfl⟩ := Prod.mk.inj h
    obtain ⟨hle, hlength, htake⟩ := ih heq
    refine ⟨by omega, by simp only [List.length_cons]; omega, ?_⟩
    simp [literalBody, hline, htake]
  | case5 rest hescape hescape' =>
    obtain ⟨-, rfl⟩ := Prod.mk.inj h
    have hquote : quote ≠ '\\' := fun h ↦ by
      rcases rest with - | ⟨c, rest⟩
      · exact hescape h rfl
      · exact hescape' c rest h rfl
    exact ⟨Nat.le_refl 1, by simp, by simp [literalBody_cons hquote]⟩
  | case7 c rest hescape hescape' hquote hline closed m heq ih =>
    obtain ⟨rfl, rfl⟩ := Prod.mk.inj h
    obtain ⟨hle, hlength, htake⟩ := ih heq
    have hc : c ≠ '\\' := fun h ↦ by
      rcases rest with - | ⟨c, rest⟩
      · exact hescape h rfl
      · exact hescape' c rest h rfl
    refine ⟨by omega, by simp only [List.length_cons]; omega, ?_⟩
    rw [List.take_succ_cons, List.cons_append, literalBody_cons hc, if_neg hquote, if_neg hline,
      htake]
  | _ => cases h

/-- A literal that makes a token is closed. -/
theorem literalBody_of_literalPiece {literal kind : TokenKind} {body : Bool × Nat} {n : Nat}
    (h : literalPiece literal body = ⟨.token kind, n⟩) : kind = literal ∧ body = (true, n) := by
  obtain ⟨closed, m⟩ := body
  cases closed <;> cases h
  exact ⟨rfl, rfl⟩

/-- What a double quote begins is the same with a blank behind it. -/
theorem stable_quotePiece : Stable quotePiece := by
  intro rest kind n h
  rw [quotePiece.eq_def] at h
  split at h
  · next body =>
    rw [enclosedPiece.eq_def] at h
    split at h
    · next m hm =>
      cases h
      obtain ⟨hle, hlength, -⟩ := textBlockLength?_take hm []
      refine ⟨by simp, by simp only [List.length_cons]; omega, fun after _ ↦ ?_⟩
      rw [Nat.add_comm 2 m]
      simp [quotePiece, (textBlockLength?_take hm after).2.2, enclosedPiece, Nat.add_comm]
    · cases h
  · next hquotes =>
    obtain ⟨rfl, hbody⟩ := literalBody_of_literalPiece h
    obtain ⟨hle, hlength, -⟩ := literalBody_take hbody []
    refine ⟨by simp, hlength, fun after hafter ↦ ?_⟩
    rw [quotePiece, (literalBody_take hbody after).2.2]
    · rfl
    · intro more heq
      -- two quotes would be a whole literal already, and a third one would follow it
      rcases rest with - | ⟨c, rest⟩
      · exact absurd (Nat.le_trans hle hlength) (by simp)
      · obtain ⟨k, rfl⟩ := Nat.exists_eq_add_of_le' hle
        obtain ⟨rfl, heq⟩ := List.cons.inj heq
        rw [literalBody_cons (by decide), if_pos rfl] at hbody
        obtain rfl : k = 0 := by simpa using hbody.symm
        rcases hafter.eq_nil_or with rfl | ⟨more, rfl⟩ <;> simp at heq

/-- What a single quote begins is the same with a blank behind it. -/
theorem stable_apostrophePiece : Stable apostrophePiece := by
  intro rest kind n h
  rw [apostrophePiece.eq_def] at h
  split at h
  · cases h
  · next hquote =>
    obtain ⟨rfl, hbody⟩ := literalBody_of_literalPiece h
    obtain ⟨hle, hlength, -⟩ := literalBody_take hbody []
    refine ⟨by simp, hlength, fun after hafter ↦ ?_⟩
    rw [apostrophePiece, (literalBody_take hbody after).2.2]
    · rfl
    · intro more heq
      rcases rest with - | ⟨c, rest⟩
      · exact absurd (Nat.le_trans hle hlength) (by simp)
      · obtain ⟨k, rfl⟩ := Nat.exists_eq_add_of_le' hle
        exact hquote rest (by rw [(List.cons.inj heq).1])

theorem signKind?_ne_identifier {c : Char} : signKind? c ≠ some .identifier := by
  rw [signKind?.eq_def]
  split <;> simp

/-- **Every way to cut a piece but the one for words is stable.** -/
theorem stable_pieceAt_or (c : Char) : Stable (pieceAt c) ∨ pieceAt c = wordPiece c := by
  by_cases hblank : isBlank c = true
  · refine .inl (stable_of_not_token fun rest kind ↦ ?_)
    simp [pieceAt, hblank, spanPiece]
  by_cases hslash : c = '/'
  · obtain rfl := hslash
    exact .inl stable_slashPiece
  by_cases hquote : c = '"'
  · obtain rfl := hquote
    exact .inl stable_quotePiece
  by_cases hapostrophe : c = '\''
  · obtain rfl := hapostrophe
    exact .inl stable_apostrophePiece
  by_cases hdot : c = '.'
  · obtain rfl := hdot
    exact .inl stable_dotPiece
  by_cases hcolon : c = ':'
  · obtain rfl := hcolon
    exact .inl stable_colonPiece
  by_cases hdigit : c.isDigit = true
  · have hpiece : pieceAt c = spanPiece (.token .number) isNumberPart := by
      funext rest
      simp [pieceAt, *]
    rw [hpiece]
    exact .inl (stable_spanPiece (by simp) rfl)
  by_cases hword : isWordStart c = true
  · right
    funext rest
    simp [pieceAt, *]
  left
  rcases hsign : signKind? c with - | kind
  · have hpiece : pieceAt c = fun _ ↦ ⟨.stray, 0⟩ := by
      funext rest
      simp [pieceAt, *]
    rw [hpiece]
    exact stable_of_more_eq_zero (by simp) rfl
  · have hpiece : pieceAt c = fun _ ↦ ⟨.token kind, 0⟩ := by
      funext rest
      simp [pieceAt, *]
    rw [hpiece]
    refine stable_of_more_eq_zero (fun h ↦ signKind?_ne_identifier (c := c) ?_) rfl
    rw [hsign, PieceKind.token.inj h]

end Stable

/-! ### Tokens by themselves -/

/-- The kind of token that a text makes by itself: a word is read for what it spells. -/
def TokenKind.alone (kind : TokenKind) (text : String) : TokenKind :=
  if kind = .identifier then wordKind text else kind

/-- Whether a text is cut as one token of a kind wherever nothing or a blank follows it. -/
def StandsAlone (kind : TokenKind) (text : List Char) : Prop :=
  ∃ c tail, text = c :: tail ∧
    ∀ after, Delimited after → pieceAt c (tail ++ after) = ⟨.token kind, tail.length⟩

theorem not_sharesLeadByteWithWord_blank : Unicode.sharesLeadByteWithWord ' ' = false := rfl

theorem isWordPart_blank : isWordPart ' ' = false := rfl

/-- A word by itself is read for what it spells. -/
theorem wordPiece_takeWhile (c : Char) (rest : List Char) {after : List Char}
    (hafter : Delimited after) :
    wordPiece c (rest.takeWhile isWordPart ++ after) =
      ⟨.token (wordKind (String.ofList (c :: rest.takeWhile isWordPart))),
        (rest.takeWhile isWordPart).length⟩ := by
  have hshares : after.head?.any Unicode.sharesLeadByteWithWord = false := by
    rcases hafter.eq_nil_or with rfl | ⟨more, rfl⟩
    · rfl
    · exact not_sharesLeadByteWithWord_blank
  rw [wordPiece, takeWhile_append_delimited isWordPart_blank hafter, List.drop_left, hshares]
  rfl

/-- **Every token stands alone.** -/
theorem standsAlone_of_pieceAt {c : Char} {rest : List Char} {kind : TokenKind} {n : Nat}
    (h : pieceAt c rest = ⟨.token kind, n⟩) :
    StandsAlone (kind.alone (String.ofList (c :: rest.take n))) (c :: rest.take n) := by
  refine ⟨c, rest.take n, rfl, fun after hafter ↦ ?_⟩
  rcases stable_pieceAt_or c with hstable | hword
  · obtain ⟨hkind, hlength, htake⟩ := hstable rest kind n h
    rw [htake after hafter, TokenKind.alone, if_neg hkind, List.length_take_of_le hlength]
  · rw [hword] at h ⊢
    obtain ⟨hkind, rfl⟩ := Piece.mk.inj h
    rw [take_length_takeWhile, wordPiece_takeWhile c rest hafter]
    congr 2
    rw [TokenKind.alone]
    split at hkind
    · rw [if_pos (PieceKind.token.inj hkind).symm]
    · rw [← PieceKind.token.inj hkind, ite_self]

/-- A text that stands alone does not begin with a blank. -/
theorem StandsAlone.not_blank {kind : TokenKind} {c : Char} {tail : List Char}
    (h : StandsAlone kind (c :: tail)) : isBlank c = false := by
  obtain ⟨c, tail, ⟨⟩, hpiece⟩ := h
  by_contra hblank
  have := hpiece [] delimited_nil
  rw [pieceAt, if_pos (Bool.not_eq_false _ ▸ hblank)] at this
  cases this

/-! ### Lexemes set apart -/

/-- **Every token of a source stands alone**, as the kind that its text has on its own. -/
theorem standsAlone_of_lexemesFrom (offset : Nat) (cs : List Char) :
    ∀ ls, lexemesFrom offset cs = .ok ls →
      ∀ l ∈ ls, StandsAlone (l.kind.alone l.text) l.text.toList := by
  fun_induction lexemesFrom offset cs with
  | case1 =>
    rintro ls ⟨⟩
    simp
  | case2 offset c rest piece text after kind hkind ih =>
    intro ls h
    rcases hafter : after with e | more
    · rw [hafter] at h
      cases h
    · rw [hafter] at h
      obtain rfl := Except.ok.inj h
      refine List.forall_mem_cons.2 ⟨?_, ih more hafter⟩
      rw [String.toList_ofList]
      exact standsAlone_of_pieceAt (n := piece.more) (by rw [← hkind])
  | case3 offset c rest piece text after hkind ih | case4 offset c rest piece text after hkind ih =>
    exact ih
  | case5 =>
    rintro ls ⟨⟩

section

variable {kind : TokenKind} {text after : List Char}

/-- A text that stands alone is cut off as one token, if it is delimited. -/
theorem lexemesFrom_standsAlone (h : StandsAlone kind text) (hafter : Delimited after)
    (offset : Nat) :
    lexemesFrom offset (text ++ after) =
      (lexemesFrom (offset + byteLength text) after).map
        (⟨kind, String.ofList text, offset⟩ :: ·) := by
  obtain ⟨c, tail, rfl, hpiece⟩ := h
  rw [List.cons_append, lexemesFrom]
  simp only [hpiece after hafter, List.take_left, List.drop_left]

/-- A blank in front of a token is skipped. -/
theorem lexemesFrom_blank (h : StandsAlone kind text) (offset : Nat) :
    lexemesFrom offset (' ' :: (text ++ after)) = lexemesFrom (offset + 1) (text ++ after) := by
  have hblank := h
  obtain ⟨c, tail, rfl, -⟩ := h
  have hpiece : pieceAt ' ' (c :: (tail ++ after)) = ⟨.blank, 0⟩ := by
    rw [pieceAt, if_pos (by decide), spanPiece, List.takeWhile_cons, hblank.not_blank]
    rfl
  rw [List.cons_append, lexemesFrom]
  simp only [hpiece, List.take_zero, List.drop_zero]
  rfl

end

/-- The texts of lexemes with one blank between neighbours. Comments and stray characters are gone,
and so is every other blank. -/
def respaced (ls : List Lexeme) : String := " ".intercalate (ls.map (·.text))

theorem respaced_cons_cons (l l' : Lexeme) (ls : List Lexeme) :
    (respaced (l :: l' :: ls)).toList = l.text.toList ++ ' ' :: (respaced (l' :: ls)).toList := by
  simp [respaced, String.toList_intercalate]

/-- Tokens that stand alone are cut off alike when they are set apart. -/
theorem lexemesFrom_respaced {ls : List Lexeme}
    (h : ∀ l ∈ ls, StandsAlone (l.kind.alone l.text) l.text.toList) (offset : Nat) :
    ∃ ls', lexemesFrom offset (respaced ls).toList = .ok ls' ∧
      ls'.map Lexeme.token = ls.map fun l ↦ (l.kind.alone l.text, l.text) := by
  induction ls generalizing offset with
  | nil => exact ⟨[], by rw [lexemesFrom.eq_def]; rfl, rfl⟩
  | cons l ls ih =>
    obtain ⟨hl, hls⟩ := List.forall_mem_cons.1 h
    rcases ls with - | ⟨l', ls⟩
    · refine ⟨[⟨l.kind.alone l.text, l.text, offset⟩], ?_, rfl⟩
      have htext : (respaced [l]).toList = l.text.toList ++ [] := by simp [respaced]
      rw [htext, lexemesFrom_standsAlone hl delimited_nil, lexemesFrom, String.ofList_toList]
      rfl
    · obtain ⟨ls', hlexemes, htokens⟩ := ih hls (offset + byteLength l.text.toList + 1)
      refine ⟨⟨l.kind.alone l.text, l.text, offset⟩ :: ls', ?_, by rw [List.map_cons, htokens]; rfl⟩
      -- the text after the blank starts with the next token
      obtain ⟨more, hmore⟩ : ∃ more, (respaced (l' :: ls)).toList = l'.text.toList ++ more := by
        rcases ls with - | ⟨l'', ls⟩
        · exact ⟨[], by simp [respaced]⟩
        · exact ⟨_, respaced_cons_cons l' l'' ls⟩
      rw [respaced_cons_cons, lexemesFrom_standsAlone hl (delimited_blank _), hmore,
        lexemesFrom_blank (List.forall_mem_cons.1 hls).1, ← hmore, hlexemes, String.ofList_toList]
      rfl

/-- **The tokens of a source are cut off alike when they are set apart**, each with the kind that
its text makes by itself. -/
theorem lexemes_respaced {source : String} {ls : List Lexeme} (h : lexemes source = .ok ls) :
    ∃ ls', lexemes (respaced ls) = .ok ls' ∧
      ls'.map Lexeme.token = ls.map fun l ↦ (l.kind.alone l.text, l.text) :=
  lexemesFrom_respaced (standsAlone_of_lexemesFrom 0 source.toList ls h) 0

/-! ### Keywords in disguise -/

/-- Whether no identifier is spelled like a keyword. A keyword is taken for an identifier where the
byte behind it could go on a word, although the character there does not. -/
def KeywordsShow (ls : List Lexeme) : Prop :=
  ∀ l ∈ ls, l.kind = .identifier → wordKind l.text = .identifier

/-- A token has the kind of its text on its own unless it is an identifier that is spelled like a
keyword. -/
theorem alone_eq_self_iff {l : Lexeme} :
    l.kind.alone l.text = l.kind ↔ (l.kind = .identifier → wordKind l.text = .identifier) := by
  rw [TokenKind.alone]
  split
  · next h => simp [h]
  · next h => simp [h]

theorem keywordsShow_iff {ls : List Lexeme} :
    KeywordsShow ls ↔ (ls.map fun l ↦ (l.kind.alone l.text, l.text)) = ls.map Lexeme.token := by
  rw [List.map_inj_left]
  refine forall₂_congr fun l _ ↦ ?_
  rw [Lexeme.token, Prod.mk.injEq, alone_eq_self_iff, and_iff_left rfl]

/-- **What stands between tokens does not influence a scan, keywords apart.** The tokens of a
source, set apart by blanks, are cut off alike. They keep their kinds exactly when no identifier of
the source is spelled like a keyword; then the scan of the new text gives the same facts, or the
same error in another place. -/
theorem scan_respaced {source : String} {ls : List Lexeme} (h : lexemes source = .ok ls) :
    ∃ ls', lexemes (respaced ls) = .ok ls' ∧ ls'.map (·.text) = ls.map (·.text) ∧
      (ls'.map (·.kind) = ls.map (·.kind) ↔ KeywordsShow ls) ∧
      (KeywordsShow ls → (scan (respaced ls)).mapError ScanError.unplaced =
        (scan source).mapError ScanError.unplaced) := by
  obtain ⟨ls', hlexemes, htokens⟩ := lexemes_respaced h
  refine ⟨ls', hlexemes, ?_, ?_, fun hshow ↦ ?_⟩
  · simpa [Function.comp_def, Lexeme.token] using congrArg (List.map Prod.snd) htokens
  · have hkinds : ls'.map (·.kind) = ls.map fun l ↦ l.kind.alone l.text := by
      simpa [Function.comp_def, Lexeme.token] using congrArg (List.map Prod.fst) htokens
    rw [hkinds, List.map_inj_left]
    exact forall₂_congr fun l _ ↦ alone_eq_self_iff
  · rw [scan, scan, h, hlexemes]
    exact scanLexemes_congr (htokens.trans (keywordsShow_iff.1 hshow))

/-- A comment that keeps two tokens apart, and none between two others. -/
theorem scan_respaced_comment :
    lexemes "class/**/A\x7b\x7d" =
      .ok [⟨.classWord, "class", 0⟩, ⟨.identifier, "A", 9⟩, ⟨.openBrace, "\x7b", 10⟩,
        ⟨.closeBrace, "\x7d", 11⟩] ∧
      (scan "class A \x7b \x7d").mapError ScanError.unplaced =
        (scan "class/**/A\x7b\x7d").mapError ScanError.unplaced := by
  have h : lexemes "class/**/A\x7b\x7d" =
      .ok [⟨.classWord, "class", 0⟩, ⟨.identifier, "A", 9⟩, ⟨.openBrace, "\x7b", 10⟩,
        ⟨.closeBrace, "\x7d", 11⟩] := by decide +kernel
  obtain ⟨ls', -, -, -, hscan⟩ := scan_respaced h
  exact ⟨h, hscan (by unfold KeywordsShow; decide)⟩

/-- **A stray character can hide a keyword.** Directly before a no-break space, `package` is an
identifier, and the source declares no package; set apart by blanks, it is the keyword again. -/
theorem scan_no_break_space_ne :
    lexemes "package\u00a0a;" =
        .ok [⟨.identifier, "package", 0⟩, ⟨.identifier, "a", 9⟩, ⟨.semicolon, ";", 10⟩] ∧
      respaced [⟨.identifier, "package", 0⟩, ⟨.identifier, "a", 9⟩, ⟨.semicolon, ";", 10⟩] =
        "package a ;" ∧
      lexemes "package a ;" =
        .ok [⟨.packageWord, "package", 0⟩, ⟨.identifier, "a", 8⟩, ⟨.semicolon, ";", 10⟩] ∧
      (scan "package\u00a0a;").map (·.package) = .ok "" ∧
      (scan "package a ;").map (·.package) = .ok "a" := by
  refine ⟨?_, rfl, ?_, ?_, ?_⟩ <;> decide +kernel

end JavaDeps.Java
