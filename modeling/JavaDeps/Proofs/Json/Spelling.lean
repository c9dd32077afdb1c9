import JavaDeps.Json.Reading
import JavaDeps.Proofs.Text.Numerals
import Mathlib.Tactic.IntervalCases

/-!
# Written values as tokens

A written string is one token, and so is a written number, whatever character follows it that no
number goes on with. Hence **a written value is cut into the tokens it was put together from**, and
into no others.
-/

namespace JavaDeps.Json

open Utf8 (Symbol)

/-! ### Strings -/

/-- The part of a string that an escaped character reads as. -/
def escapedPart (c : Char) : StringPart :=
  if c = '"' ∨ c = '\\' ∨ 0x20 ≤ c.toNat ∨ c ∈ ['\x08', '\t', '\n', '\x0c', '\r'] then .char c
  else .unit c.toNat

/-- A control character is read back from its escape, as a unit or by a name of its own. -/
theorem stringParts_escapeChar_of_control {n : Nat} (hn : n < 0x20) (rest : List Symbol) :
    stringParts ((escapeChar (Char.ofNat n)).map some ++ rest) =
      (stringParts rest).map fun (parts, k) ↦
        (escapedPart (Char.ofNat n) :: parts, k + (escapeChar (Char.ofNat n)).length) := by
  interval_cases n <;> rfl

/-- **Every character is read back from its escape**, with whatever follows it. -/
theorem stringParts_escapeChar (c : Char) (rest : List Symbol) :
    stringParts ((escapeChar c).map some ++ rest) = (stringParts rest).map fun (parts, k) ↦
      (escapedPart c :: parts, k + (escapeChar c).length) := by
  by_cases hcontrol : c.toNat < 0x20
  · -- the escapes of control characters are a table
    rw [← Char.ofNat_toNat c]
    exact stringParts_escapeChar_of_control hcontrol rest
  · by_cases hquote : c = '"'
    · subst hquote
      rfl
    · by_cases hslash : c = '\\'
      · subst hslash
        rfl
      · have hpart : escapedPart c = .char c := by
          rw [escapedPart, if_pos (.inr (.inr (.inl (Nat.le_of_not_lt hcontrol))))]
        rw [hpart, escapeChar, if_neg hquote, if_neg hslash, if_neg hcontrol, List.map_singleton,
          List.singleton_append, stringParts.eq_def]
        split <;> simp_all

/-- A text as it stands inside quotes, with the closing one, reads as its parts. -/
theorem stringParts_escaped (cs : List Char) (rest : List Symbol) :
    stringParts ((cs.flatMap escapeChar).map some ++ some '"' :: rest) =
      .ok (cs.map escapedPart, (cs.flatMap escapeChar).length + 1) := by
  induction cs with
  | nil => rfl
  | cons c cs ih =>
    have hlength : (cs.flatMap escapeChar).length + 1 + (escapeChar c).length =
        (escapeChar c ++ cs.flatMap escapeChar).length + 1 := by
      rw [List.length_append]
      omega
    rw [List.flatMap_cons, List.map_append, List.append_assoc, stringParts_escapeChar, ih,
      ← hlength]
    rfl

/-- The unit of a control character stands for that character alone. -/
theorem textOfParts?_unit {u : Nat} (hu : u < 0x20) (parts : List StringPart) :
    textOfParts? (.unit u :: parts) = (textOfParts? parts).map (Char.ofNat u :: ·) := by
  have hhigh : isHighSurrogate u = false := by simp [isHighSurrogate]; omega
  have hlow : isLowSurrogate u = false := by simp [isLowSurrogate]; omega
  rw [textOfParts?.eq_def]
  split <;> simp_all

/-- The parts that characters are read back as stand for these characters. -/
theorem textOfParts?_map_escapedPart (cs : List Char) :
    textOfParts? (cs.map escapedPart) = some cs := by
  induction cs with
  | nil => rfl
  | cons c cs ih =>
    rw [List.map_cons, escapedPart]
    split
    · rw [textOfParts?, ih]
      rfl
    · next h =>
      -- a control character is a unit by itself, and half of no pair
      have hcontrol : c.toNat < 0x20 := by
        by_contra hlarge
        exact h (.inr (.inr (.inl (Nat.le_of_not_lt hlarge))))
      rw [textOfParts?_unit hcontrol, ih, Char.ofNat_toNat]
      rfl

/-- **A written string is one token.** -/
theorem tokens_quoted (s : String) (rest : List Symbol) :
    tokens ((quoted s).map some ++ rest) = .string (some s) :: tokens rest := by
  have hparts := stringParts_escaped s.toList rest
  have htoken : stringToken ((s.toList.flatMap escapeChar).map some ++ some '"' :: rest) =
      (.string (some s), (s.toList.flatMap escapeChar).length + 1) := by
    simp [stringToken, hparts, textOfParts?_map_escapedPart]
  have hsplit : (quoted s).map some ++ rest =
      some '"' :: ((s.toList.flatMap escapeChar).map some ++ some '"' :: rest) := by
    simp [quoted]
  have hdrop : ((s.toList.flatMap escapeChar).map some ++ some '"' :: rest).drop
      ((s.toList.flatMap escapeChar).length + 1) = rest := by
    simp [List.drop_append]
  rw [hsplit, tokens, if_neg (by decide)]
  simp only [tokenAt, htoken, hdrop]

/-! ### Numbers -/

/-- Whether a text ends here, or goes on with a sign that ends a value, or on another line. -/
def Delimited (rest : List Symbol) : Prop :=
  ∀ s ∈ rest.head?, s = some ',' ∨ s = some ']' ∨ s = some '\x7d' ∨ s = some '\n'

theorem delimited_nil : Delimited [] := by simp [Delimited]

theorem delimited_comma (rest : List Symbol) : Delimited (some ',' :: rest) := by simp [Delimited]

theorem delimited_closeBracket (rest : List Symbol) : Delimited (some ']' :: rest) := by
  simp [Delimited]

theorem delimited_closeBrace (rest : List Symbol) : Delimited (some '\x7d' :: rest) := by
  simp [Delimited]

theorem delimited_newline (rest : List Symbol) : Delimited (some '\n' :: rest) := by
  simp [Delimited]

theorem isBlank_of_isDigit {c : Char} (h : c.isDigit = true) : isBlank (some c) = false := by
  by_contra hblank
  rw [Bool.not_eq_false, isBlank] at hblank
  simp only [Bool.or_eq_true, beq_iff_eq] at hblank
  rcases hblank with ((rfl | rfl) | rfl) | rfl <;> exact absurd h (by decide)

/-- A digit begins a number. -/
theorem tokenAt_of_isDigit {c : Char} (h : c.isDigit = true) (rest : List Symbol) :
    tokenAt (some c) rest = numberToken (some c :: rest) := by
  have hne : ∀ d : Char, d.isDigit = false → c ≠ d := fun d hd heq ↦ by
    rw [heq, hd] at h
    exact Bool.false_ne_true h
  rw [tokenAt]
  · simp [h]
  all_goals exact hne _ (by decide)

/-- Digits are read up to what delimits them. -/
theorem leadingDigits_append {digits : List Char} {rest : List Symbol}
    (hdigits : ∀ c ∈ digits, c.isDigit = true) (hrest : Delimited rest) :
    leadingDigits (digits.map some ++ rest) = digits := by
  induction digits with
  | nil =>
    cases rest with
    | nil => rfl
    | cons s rest =>
      rcases hrest s rfl with rfl | rfl | rfl | rfl <;> rfl
  | cons c digits ih =>
    rw [List.forall_mem_cons] at hdigits
    have hc : isDigitSymbol (some c) = true := hdigits.1
    rw [leadingDigits, List.map_cons, List.cons_append, List.takeWhile_cons, if_pos hc,
      List.filterMap_cons]
    exact congrArg _ (ih hdigits.2)

/-- A number that is delimited has no fraction. -/
theorem fractionPart_of_delimited {rest : List Symbol} (hrest : Delimited rest) :
    fractionPart rest = .ok ([], 0) := by
  cases rest with
  | nil => rfl
  | cons s rest => rcases hrest s rfl with rfl | rfl | rfl | rfl <;> rfl

/-- A number that is followed by a delimiter has no exponent. -/
theorem exponentPart_of_delimited {rest : List Symbol} (hrest : Delimited rest) :
    exponentPart rest = .ok (none, 0) := by
  cases rest with
  | nil => rfl
  | cons s rest => rcases hrest s rfl with rfl | rfl | rfl | rfl <;> rfl

/-- A natural number is read back from its digits as one without sign, fraction and exponent. -/
theorem numberParts_toDigits (n : Nat) {rest : List Symbol} (hrest : Delimited rest) :
    numberParts ((Nat.toDigits 10 n).map some ++ rest) =
      .ok (⟨false, Nat.toDigits 10 n, [], none⟩, (Nat.toDigits 10 n).length) := by
  have hdigits : ∀ c ∈ Nat.toDigits 10 n, c.isDigit = true := fun c ↦ isDigit_of_mem_toDigits
  have hzero : ¬ (2 ≤ (Nat.toDigits 10 n).length ∧ (Nat.toDigits 10 n).head? = some '0') := by
    rintro ⟨hlength, hhead⟩
    rcases length_toDigits_eq_one_or n with hone | hne
    · omega
    · exact hne hhead
  -- from here on only the digits count, not how they came about
  generalize hds : Nat.toDigits 10 n = ds at hdigits hzero ⊢
  have hne : ds ≠ [] := hds ▸ Nat.toDigits_ne_nil
  have hwhole := leadingDigits_append hdigits hrest
  have hsign : (ds.map some ++ rest).head? ≠ some (some '-') := by
    obtain ⟨d, ds, rfl⟩ := List.exists_cons_of_ne_nil hne
    rintro h
    have hd := hdigits d (List.mem_cons_self ..)
    rw [Option.some.inj (Option.some.inj h)] at hd
    exact absurd hd (by decide)
  have hlead : ((ds.map some ++ rest).head? == some (some '-')) = false :=
    beq_eq_false_iff_ne.2 hsign
  have hempty : ds.isEmpty = false := List.isEmpty_eq_false_iff.2 hne
  have hdrop : (ds.map some ++ rest).drop ds.length = rest := by simp
  rw [numberParts, hlead]
  simp only [Bool.false_eq_true, if_false, List.drop_zero, hwhole, hempty, hzero]
  simp only [hdrop, fractionPart_of_delimited hrest, bind, Except.bind, Nat.add_zero,
    exponentPart_of_delimited hrest]
  rw [Nat.zero_add]
  rfl

/-- **A written number is one token.** -/
theorem tokens_toDigits (n : Nat) {rest : List Symbol} (hrest : Delimited rest) :
    tokens ((Nat.toDigits 10 n).map some ++ rest) =
      .number ⟨false, Nat.toDigits 10 n, [], none⟩ :: tokens rest := by
  have hparts := numberParts_toDigits n hrest
  have hdigit : ∀ c ∈ Nat.toDigits 10 n, c.isDigit = true := fun c ↦ isDigit_of_mem_toDigits
  obtain ⟨d, ds, hds⟩ := List.exists_cons_of_ne_nil (Nat.toDigits_ne_nil (n := n) (b := 10))
  rw [hds] at hparts hdigit ⊢
  have hd := hdigit d (List.mem_cons_self ..)
  rw [List.map_cons, List.cons_append] at hparts ⊢
  rw [tokens, if_neg (by rw [isBlank_of_isDigit hd]; exact Bool.false_ne_true)]
  simp only [tokenAt_of_isDigit hd, numberToken, hparts]
  simp

/-! ### Values -/

mutual

/-- The tokens of a value. -/
def Value.tokens : Value → List Token
  | .null => [.null]
  | .bool b => [.bool b]
  | .nat n => [.number ⟨false, Nat.toDigits 10 n, [], none⟩]
  | .string s => [.string (some s)]
  | .array items => .openBracket :: itemTokens items ++ [.closeBracket]
  | .object fields => .openBrace :: fieldTokens fields ++ [.closeBrace]

/-- The tokens of the items of an array. -/
def itemTokens : List Value → List Token
  | [] => []
  | [v] => v.tokens
  | v :: rest => v.tokens ++ .comma :: itemTokens rest

/-- The tokens of the fields of an object. -/
def fieldTokens : List (String × Value) → List Token
  | [] => []
  | [(k, v)] => .string (some k) :: .colon :: v.tokens
  | (k, v) :: rest => .string (some k) :: .colon :: v.tokens ++ .comma :: fieldTokens rest

end

section Signs

variable (rest : List Symbol)

theorem tokens_null : tokens ("null".toList.map some ++ rest) = .null :: tokens rest := by
  show tokens (some 'n' :: ("ull".toList.map some ++ rest)) = _
  rw [tokens]
  rfl

/-- A truth value is one token. -/
theorem tokens_bool (b : Bool) :
    tokens ((Value.bool b).chars.map some ++ rest) = .bool b :: tokens rest := by
  cases b with
  | true =>
    show tokens (some 't' :: ("rue".toList.map some ++ rest)) = _
    rw [tokens]
    rfl
  | false =>
    show tokens (some 'f' :: ("alse".toList.map some ++ rest)) = _
    rw [tokens]
    rfl

theorem tokens_openBracket : tokens (some '[' :: rest) = .openBracket :: tokens rest := by
  rw [tokens]; rfl

theorem tokens_closeBracket : tokens (some ']' :: rest) = .closeBracket :: tokens rest := by
  rw [tokens]; rfl

theorem tokens_openBrace : tokens (some '\x7b' :: rest) = .openBrace :: tokens rest := by
  rw [tokens]; rfl

theorem tokens_closeBrace : tokens (some '\x7d' :: rest) = .closeBrace :: tokens rest := by
  rw [tokens]; rfl

theorem tokens_comma : tokens (some ',' :: rest) = .comma :: tokens rest := by
  rw [tokens]; rfl

theorem tokens_colon : tokens (some ':' :: rest) = .colon :: tokens rest := by
  rw [tokens]; rfl

end Signs

mutual

/-- **A written value is cut into the tokens it was put together from.** -/
theorem tokens_chars (v : Value) {rest : List Symbol} (hrest : Delimited rest) :
    tokens (v.chars.map some ++ rest) = v.tokens ++ tokens rest := by
  cases v with
  | null => exact tokens_null rest
  | bool b => exact tokens_bool rest b
  | nat n => exact tokens_toDigits n hrest
  | string s => exact tokens_quoted s rest
  | array items =>
    rw [Value.chars, List.map_append, List.map_cons, List.append_assoc, List.cons_append,
      tokens_openBracket]
    have hitems := tokens_itemChars items (delimited_closeBracket rest)
    rw [List.map_singleton, List.singleton_append, hitems, tokens_closeBracket, Value.tokens]
    simp
  | object fields =>
    rw [Value.chars, List.map_append, List.map_cons, List.append_assoc, List.cons_append,
      tokens_openBrace]
    have hfields := tokens_fieldChars fields (delimited_closeBrace rest)
    rw [List.map_singleton, List.singleton_append, hfields, tokens_closeBrace, Value.tokens]
    simp

/-- The items of an array are read as their tokens, with the commas in between. -/
theorem tokens_itemChars (items : List Value) {rest : List Symbol} (hrest : Delimited rest) :
    tokens ((itemChars items).map some ++ rest) = itemTokens items ++ tokens rest := by
  match items with
  | [] => rfl
  | [v] => exact tokens_chars v hrest
  | v :: w :: items =>
    have hv := tokens_chars v (delimited_comma ((itemChars (w :: items)).map some ++ rest))
    have hitems := tokens_itemChars (w :: items) hrest
    rw [itemChars, itemTokens]
    · simp only [List.map_append, List.map_cons, List.append_assoc, List.cons_append, hv,
        tokens_comma, hitems]
    · simp
    · simp

/-- The fields of an object are read as their tokens, with the commas in between. -/
theorem tokens_fieldChars (fields : List (String × Value)) {rest : List Symbol}
    (hrest : Delimited rest) :
    tokens ((fieldChars fields).map some ++ rest) = fieldTokens fields ++ tokens rest := by
  match fields with
  | [] => rfl
  | [(k, v)] =>
    have hv := tokens_chars v hrest
    simp only [fieldChars, fieldTokens, List.map_append, List.map_cons, List.append_assoc,
      List.cons_append, tokens_quoted, tokens_colon, hv]
  | (k, v) :: f :: fields =>
    have hv := tokens_chars v (delimited_comma ((fieldChars (f :: fields)).map some ++ rest))
    have hfields := tokens_fieldChars (f :: fields) hrest
    rw [fieldChars, fieldTokens]
    · simp only [List.map_append, List.map_cons, List.append_assoc, List.cons_append, tokens_quoted,
        tokens_colon, hv, tokens_comma, hfields]
    · simp
    · simp

end

end JavaDeps.Json
