import JavaDeps.Proofs.Java.Relexing

/-!
# Where tokens stand in a source

A source is cut from left to right, so its pieces stand one behind the other and cover it. **The
tokens of a source are slices of it, each at its own span, in order and apart from each other**
(`Tiles`). When a source is refused for its tokens, **the error points at an opening delimiter that
stands in no other piece and that nothing closes** (`LeavesOpen`).

What closes an enclosure is said without the search for it (`Enclosure.ClosedIn`): a comment ends
with any `*/`, a text block with three quotes that no backslash escapes.
-/

namespace JavaDeps.Java

/-! ### Slices -/

/-- Whether a source holds a text at byte `offset`. Both ends of the text are boundaries of
characters. -/
structure HoldsAt (source : String) (offset : Nat) (text : String) : Prop where
  starts : String.Pos.Raw.IsValid source ⟨offset⟩
  stops : String.Pos.Raw.IsValid source ⟨offset + text.utf8ByteSize⟩
  extract_eq : source.extract ⟨_, starts⟩ ⟨_, stops⟩ = text

/-- A text holds what it is put together from, at the length of what comes in front. -/
theorem holdsAt_append (before text after : String) :
    HoldsAt (before ++ text ++ after) before.utf8ByteSize text where
  starts := String.Pos.Raw.isValid_iff_exists_append.2
    ⟨before, text ++ after, String.append_assoc, rfl⟩
  stops := String.Pos.Raw.isValid_iff_exists_append.2
    ⟨before ++ text, after, rfl, by rw [String.rawEndPos, String.utf8ByteSize_append]⟩
  extract_eq := by
    apply String.toByteArray_inj.1
    rw [String.toByteArray_extract, String.toByteArray_append, String.toByteArray_append,
      ByteArray.append_assoc]
    exact (ByteArray.extract_append_size_add (i := 0)).trans (ByteArray.extract_append_eq_left rfl)

/-- The end of a text that a source holds is no further than the end of the source. -/
theorem HoldsAt.stop_le {source text : String} {offset : Nat} (h : HoldsAt source offset text) :
    offset + text.utf8ByteSize ≤ source.utf8ByteSize :=
  h.stops.le_utf8ByteSize

/-- The length in bytes is that of the encoded text. -/
theorem byteLength_eq (cs : List Char) : byteLength cs = (String.ofList cs).utf8ByteSize := by
  induction cs with
  | nil => rfl
  | cons c cs ih =>
    rw [String.ofList_cons, String.utf8ByteSize_append, String.utf8ByteSize_singleton, ← ih]
    rfl

/-! ### Pieces in place -/

/-- The byte behind a piece. -/
def SourcePiece.stop (p : SourcePiece) : Nat := p.offset + p.text.utf8ByteSize

/-- **Each piece is cut off behind all the text that is cut off before it.** -/
theorem exists_pieceAt_of_mem {offset : Nat} {cs : List Char} {p : SourcePiece}
    (h : p ∈ piecesFrom offset cs) :
    ∃ before c rest, cs = before ++ c :: rest ∧ p = ⟨(pieceAt c rest).kind,
      String.ofList (c :: rest.take (pieceAt c rest).more), offset + byteLength before⟩ := by
  fun_induction piecesFrom offset cs with
  | case1 => cases h
  | case2 offset c rest piece text ih =>
    rcases List.mem_cons.1 h with rfl | h
    · exact ⟨[], c, rest, rfl, rfl⟩
    · obtain ⟨before, d, more, hcs, rfl⟩ := ih h
      refine ⟨text ++ before, d, more, ?_, ?_⟩
      · rw [List.append_assoc, ← hcs, List.cons_append, List.take_append_drop]
      · rw [byteLength_eq (text ++ before), String.ofList_append, String.utf8ByteSize_append,
          ← byteLength_eq, ← byteLength_eq, Nat.add_assoc]

/-- **Pieces stand one behind the other.** -/
theorem pairwise_piecesFrom (offset : Nat) (cs : List Char) :
    (piecesFrom offset cs).Pairwise fun p q ↦ p.stop ≤ q.offset := by
  fun_induction piecesFrom offset cs with
  | case1 => exact .nil
  | case2 offset c rest piece text ih =>
    refine List.pairwise_cons.2 ⟨fun q hq ↦ ?_, ih⟩
    obtain ⟨before, d, more, -, rfl⟩ := exists_pieceAt_of_mem hq
    rw [SourcePiece.stop, ← byteLength_eq]
    exact Nat.le_add_right _ _

/-- **A source holds its pieces**, and none of them is empty. -/
theorem holdsAt_of_mem_pieces {source : String} {p : SourcePiece} (h : p ∈ pieces source) :
    p.text ≠ "" ∧ HoldsAt source p.offset p.text := by
  obtain ⟨before, c, rest, hsource, rfl⟩ := exists_pieceAt_of_mem h
  refine ⟨by simp, ?_⟩
  have hsplit : source =
      String.ofList before ++ String.ofList (c :: rest.take (pieceAt c rest).more) ++
        String.ofList (rest.drop (pieceAt c rest).more) := by
    rw [← String.toList_inj, hsource]
    simp
  rw [Nat.zero_add, byteLength_eq]
  exact hsplit ▸ holdsAt_append _ _ _

/-! ### Tokens in place -/

/-- The byte behind a lexeme. -/
def Lexeme.stop (l : Lexeme) : Nat := l.offset + l.text.utf8ByteSize

/-- Whether lexemes are slices of a source, each at its own span, in order and apart. -/
structure Tiles (source : String) (ls : List Lexeme) : Prop where
  nonempty : ∀ l ∈ ls, l.offset < l.stop
  within : ∀ l ∈ ls, l.stop ≤ source.utf8ByteSize
  holds : ∀ l ∈ ls, HoldsAt source l.offset l.text
  increasing : ls.Pairwise fun l l' ↦ l.offset < l'.offset
  apart : ls.Pairwise fun l l' ↦ l.stop ≤ l'.offset

theorem SourcePiece.lexeme?_eq_some_iff {p : SourcePiece} {l : Lexeme} :
    p.lexeme? = some l ↔ p.kind = .token l.kind ∧ p.text = l.text ∧ p.offset = l.offset := by
  obtain ⟨kind, text, offset⟩ := p
  obtain ⟨kind', text', offset'⟩ := l
  cases kind <;> simp [lexeme?]

/-- **The pieces of a source tile it.** -/
theorem tiles_tokens (source : String) : Tiles source (tokens source) := by
  have hholds : ∀ l ∈ tokens source, l.text ≠ "" ∧ HoldsAt source l.offset l.text := by
    intro l hl
    obtain ⟨p, hp, hlexeme⟩ := List.mem_filterMap.1 hl
    obtain ⟨-, htext, hoffset⟩ := SourcePiece.lexeme?_eq_some_iff.1 hlexeme
    rw [← htext, ← hoffset]
    exact holdsAt_of_mem_pieces hp
  have hnonempty : ∀ l ∈ tokens source, l.offset < l.stop := fun l hl ↦
    Nat.lt_add_of_pos_right
      (Nat.pos_of_ne_zero fun h ↦ (hholds l hl).1 (String.utf8ByteSize_eq_zero_iff.1 h))
  have hapart : (tokens source).Pairwise fun l l' ↦ l.stop ≤ l'.offset := by
    refine (pairwise_piecesFrom 0 source.toList).filterMap _ fun p q hpq l hl l' hl' ↦ ?_
    obtain ⟨-, htext, hoffset⟩ := SourcePiece.lexeme?_eq_some_iff.1 hl
    obtain ⟨-, -, hoffset'⟩ := SourcePiece.lexeme?_eq_some_iff.1 hl'
    rwa [Lexeme.stop, ← htext, ← hoffset, ← hoffset']
  exact
    { nonempty := hnonempty
      within := fun l hl ↦ (hholds l hl).2.stop_le
      holds := fun l hl ↦ (hholds l hl).2
      increasing := hapart.imp_of_mem fun hl _ h ↦ Nat.lt_of_lt_of_le (hnonempty _ hl) h
      apart := hapart }

/-! ### What closes an enclosure -/

/-- The delimiter that opens an enclosure. -/
def Enclosure.opening : Enclosure → String
  | .blockComment => "/*"
  | .textBlock => "\"\"\""

/-- Whether all backslashes of a text escape a character of it, read from left to right. -/
inductive Paired : List Char → Prop
  | nil : Paired []
  | escape (c : Char) {cs : List Char} (h : Paired cs) : Paired ('\\' :: c :: cs)
  | plain {c : Char} {cs : List Char} (hc : c ≠ '\\') (h : Paired cs) : Paired (c :: cs)

/-- Whether an enclosure ends in the text behind its opening delimiter: a comment where a slash
stands behind a star, and a text block at three quotes the first of which no backslash escapes. -/
inductive Enclosure.ClosedIn : Enclosure → List Char → Prop
  | comment (body after : List Char) : ClosedIn .blockComment (body ++ '*' :: '/' :: after)
  /-- The first of the three quotes is not escaped. -/
  | textBlock {body : List Char} (hbody : Paired body) (after : List Char) :
    ClosedIn .textBlock (body ++ '"' :: '"' :: '"' :: after)

/-- A comment has a length just if it is closed. -/
theorem isSome_commentLength?_iff {cs : List Char} :
    (commentLength? cs).isSome = true ↔ Enclosure.ClosedIn .blockComment cs := by
  constructor
  · intro h
    fun_induction commentLength? cs with
    | case1 after => exact .comment [] after
    | case2 c rest hclose ih =>
      obtain ⟨body, after⟩ := ih (by simpa using h)
      exact .comment (c :: body) after
    | case3 => cases h
  · rintro ⟨body, after⟩
    induction body with
    | nil => rfl
    | cons c body ih =>
      rw [List.cons_append, commentLength?.eq_def]
      split
      · rfl
      · next heq =>
        obtain ⟨-, rfl⟩ := List.cons.inj heq
        simpa using ih
      · next heq => cases heq

/-- A text block has a length just if it is closed. -/
theorem isSome_textBlockLength?_iff {cs : List Char} :
    (textBlockLength? cs).isSome = true ↔ Enclosure.ClosedIn .textBlock cs := by
  constructor
  · intro h
    fun_induction textBlockLength? cs with
    | case1 c rest ih =>
      obtain _ | ⟨hbody, after⟩ := ih (by simpa using h)
      exact .textBlock (.escape c hbody) after
    | case2 after => exact .textBlock .nil after
    | case3 c rest hescape hquotes ih =>
      obtain _ | ⟨hbody, after⟩ := ih (by simpa using h)
      have hc : c ≠ '\\' := by
        -- a backslash would escape the first character of what closes the block
        rintro rfl
        cases hbody <;> exact hescape _ _ rfl rfl
      exact .textBlock (.plain hc hbody) after
    | case4 => cases h
  · rintro (_ | ⟨hbody, after⟩)
    induction hbody with
    | nil => rfl
    | escape c hbody ih =>
      rw [List.cons_append, List.cons_append, textBlockLength?]
      simpa using ih
    | @plain c body hc hbody ih =>
      rw [List.cons_append, textBlockLength?.eq_def]
      split
      · next heq => exact absurd (List.cons.inj heq).1 hc
      · rfl
      · next heq =>
        obtain ⟨-, rfl⟩ := List.cons.inj heq
        simpa using ih
      · next heq => cases heq

/-! ### Enclosures that are never closed -/

section

variable {what : Enclosure}

/-- A piece that is not closed is one whose end was not found. -/
theorem enclosedPiece_unclosed {closed : PieceKind} {kind : Enclosure} {opening : Nat}
    {rest : List Char} {length? : Option Nat} (hclosed : closed ≠ .unclosed what)
    (h : (enclosedPiece closed kind opening rest length?).kind = .unclosed what) :
    kind = what ∧ length? = none := by
  rcases length? with - | n
  · exact ⟨PieceKind.unclosed.inj h, rfl⟩
  · exact absurd h hclosed

/-- Only a `/` and a `"` can open what is never closed. -/
theorem pieceAt_kind_ne_unclosed {c : Char} (hslash : c ≠ '/') (hquote : c ≠ '"')
    (rest : List Char) : (pieceAt c rest).kind ≠ .unclosed what := by
  have hliteral (kind : TokenKind) (body : Bool × Nat) :
      (literalPiece kind body).kind ≠ .unclosed what := by
    rw [literalPiece]
    split <;> simp
  rw [pieceAt, if_neg hslash, if_neg hquote]
  split
  · simp [spanPiece]
  split
  · rw [apostrophePiece.eq_def]
    split
    · simp
    · exact hliteral _ _
  split
  · rw [dotPiece.eq_def]
    split <;> simp
  split
  · rw [colonPiece.eq_def]
    split <;> simp
  split
  · simp [spanPiece]
  split
  · simp [wordPiece]
  split <;> simp

/-- **An enclosure is left open only where its delimiter stands and nothing closes it.** Then it
reaches to the end of the text. -/
theorem unclosed_of_pieceAt {c : Char} {rest : List Char}
    (h : (pieceAt c rest).kind = .unclosed what) :
    ∃ body, c :: rest = what.opening.toList ++ body ∧ ¬ what.ClosedIn body ∧
      (pieceAt c rest).more = rest.length := by
  by_cases hslash : c = '/'
  · obtain rfl := hslash
    have hpiece : pieceAt '/' rest = slashPiece rest := rfl
    rw [hpiece] at h ⊢
    rw [slashPiece.eq_def] at h
    split at h
    · cases h
    · next body =>
      obtain ⟨rfl, hnone⟩ := enclosedPiece_unclosed (by simp) h
      refine ⟨body, rfl, ?_, ?_⟩
      · rw [← isSome_commentLength?_iff, hnone]
        exact Bool.false_ne_true
      · rw [slashPiece, hnone]
        exact Nat.add_comm 1 _
    · cases h
  by_cases hquote : c = '"'
  · obtain rfl := hquote
    have hpiece : pieceAt '"' rest = quotePiece rest := rfl
    rw [hpiece] at h ⊢
    rw [quotePiece.eq_def] at h
    split at h
    · next body =>
      obtain ⟨rfl, hnone⟩ := enclosedPiece_unclosed (by simp) h
      refine ⟨body, rfl, ?_, ?_⟩
      · rw [← isSome_textBlockLength?_iff, hnone]
        exact Bool.false_ne_true
      · rw [quotePiece, hnone]
        exact Nat.add_comm 2 _
    · rw [literalPiece] at h
      split at h <;> cases h
  exact absurd h (pieceAt_kind_ne_unclosed hslash hquote rest)

end

/-! ### Both ways to end -/

/-- Whether a source holds, at byte `offset`, the opening delimiter of an enclosure that nothing
closes. All other tokens and comments end before it. -/
structure LeavesOpen (source : String) (what : Enclosure) (offset : Nat) : Prop where
  opens : ∃ before body, source = before ++ what.opening ++ body ∧ before.utf8ByteSize = offset ∧
    ¬ what.ClosedIn body.toList
  outside : ∀ p ∈ pieces source, p.kind ≠ .unclosed what → p.stop ≤ offset

/-- What is left open reaches to the end of the text, so it is the last piece. -/
theorem eq_nil_of_piecesFrom_eq {p : SourcePiece} {back : List SourcePiece} {what : Enclosure}
    (hp : p.kind = .unclosed what) (offset : Nat) (cs : List Char) :
    ∀ front, piecesFrom offset cs = front ++ p :: back → back = [] := by
  fun_induction piecesFrom offset cs with
  | case1 => simp
  | case2 offset c rest piece text ih =>
    rintro (- | ⟨q, front⟩) h
    · obtain ⟨rfl, rfl⟩ := List.cons.inj h
      obtain ⟨-, -, -, hmore⟩ := unclosed_of_pieceAt hp
      rw [hmore, List.drop_length, piecesFrom]
    · exact ih front (List.cons.inj h).2

/-- What is reported as unclosed is left open in the source, right there. -/
theorem leavesOpen_of_unclosed {source : String} {p : SourcePiece} {what : Enclosure}
    (h : p ∈ pieces source) (hp : p.kind = .unclosed what) : LeavesOpen source what p.offset where
  opens := by
    obtain ⟨before, c, rest, hsource, rfl⟩ := exists_pieceAt_of_mem h
    obtain ⟨body, hbody, hopen, -⟩ := unclosed_of_pieceAt hp
    refine ⟨String.ofList before, String.ofList body, ?_, ?_, ?_⟩
    · rw [← String.toList_inj, hsource, hbody]
      simp
    · rw [Nat.zero_add, byteLength_eq]
    · rwa [String.toList_ofList]
  outside q hq hkind := by
    obtain ⟨front, back, hpieces⟩ := List.append_of_mem h
    obtain rfl := eq_nil_of_piecesFrom_eq hp 0 source.toList front hpieces
    have hapart : (front ++ [p]).Pairwise fun p q ↦ p.stop ≤ q.offset :=
      hpieces ▸ pairwise_piecesFrom 0 source.toList
    rw [hpieces, List.mem_append, List.mem_singleton] at hq
    obtain hq | rfl := hq
    · exact (List.pairwise_append.1 hapart).2.2 q hq p (List.mem_singleton_self p)
    · exact absurd hp hkind

/-- **The tokens of a source tile it**, and where there are none, the error points at an enclosure
that is left open. -/
theorem lexemes_tile (source : String) :
    match lexemes source with
    | .ok ls => Tiles source ls
    | .error e => ∃ what offset, e = .unterminated what offset ∧ LeavesOpen source what offset := by
  rw [lexemes_eq]
  rcases hfirst : firstUnclosed? source with - | e
  · exact tiles_tokens source
  · obtain ⟨p, hp, hunclosed⟩ := List.exists_of_findSome?_eq_some hfirst
    rw [SourcePiece.unclosed?.eq_def] at hunclosed
    split at hunclosed
    · next what hkind =>
      exact ⟨what, p.offset, (Option.some.inj hunclosed).symm, leavesOpen_of_unclosed hp hkind⟩
    · cases hunclosed

end JavaDeps.Java
