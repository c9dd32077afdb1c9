import JavaDeps.Proofs.Text.Numerals
import JavaDeps.Proofs.Toml.QuotedText
import JavaDeps.Toml.Nested
import Mathlib.Data.List.Basic

/-!
# Written values as values

What an entry of a written document holds is read back as it was: texts in their quotes, lists over
one line or several, truth values, and numbers that have 63 bits (`value?_render`). A reader refuses
larger numbers, which a writer would write all the same.
-/

namespace JavaDeps.Toml

/-- The value of what an entry holds. -/
def Written.value : Written → Value
  | bool b => .bool b
  | nat n => .integer n
  | text s => .text s
  | list items => .list (items.map .text)

/-- Whether a number is small enough to be read back. -/
def Written.IsReadable : Written → Prop
  | nat n => n < 2 ^ 63
  | _ => True

/-! ### Words -/

section

variable {word rest : List Char} {c : Char} {v : Value}

/-- A word that has a value is read up to the first character that is not part of it. -/
theorem scalar?_append (hword : ∀ c ∈ word, isWordChar c = true) (hv : ofWord? word = some v)
    (hc : isWordChar c = false) (hblank : c ≠ ' ') :
    scalar? (word ++ c :: rest) = some (v, c :: rest) := by
  have htake : (word ++ c :: rest).takeWhile isWordChar = word := by
    rw [List.takeWhile_append_of_pos hword, List.takeWhile_cons_of_neg (by simp [hc]),
      List.append_nil]
  have hdrop : (word ++ c :: rest).dropWhile isWordChar = c :: rest := by
    rw [List.dropWhile_append_of_pos hword, List.dropWhile_cons_of_neg (by simp [hc])]
  simp [scalar?, htake, hdrop, hblank, hv]

/-- A word stands for its value if no blank follows it, which could have a time of day behind it. -/
theorem value?_word (hne : word ≠ []) (hword : ∀ c ∈ word, isWordChar c = true)
    (hv : ofWord? word = some v) (hc : isWordChar c = false) (hblank : c ≠ ' ') :
    value? (word ++ c :: rest) = some (v, c :: rest) := by
  have hscalar : scalar? (word ++ c :: rest) = some (v, c :: rest) :=
    scalar?_append hword hv hc hblank
  obtain ⟨d, ds, rfl⟩ := List.exists_cons_of_ne_nil hne
  have hd : isWordChar d = true := hword d List.mem_cons_self
  have hapart {e : Char} (he : isWordChar e = false) : d ≠ e := fun h ↦ by
    rw [h, he] at hd
    exact Bool.false_ne_true hd
  rw [value?, maxDepth, valueWithin?]
  · exact hscalar
  all_goals exact fun _ h ↦ hapart (by decide) (List.cons.inj h).1

end

/-! ### Numbers -/

theorem ofDigits_eq_ofDigitChars {ds : List Char} (h : ∀ c ∈ ds, c.isDigit = true) :
    ofDigits 10 ds = Nat.ofDigitChars 10 ds 0 := by
  rw [ofDigits, Nat.ofDigitChars]
  refine List.foldl_ext _ _ _ fun n c hc ↦ ?_
  rw [digitValue, if_pos (h c hc)]

theorem fits_natCast {n : Nat} (hn : n < 2 ^ 63) : fits n = true := by
  have hneg : -((Nat.pow 2 63 : Nat) : Int) ≤ 0 :=
    Int.neg_nonpos_of_nonneg (Int.natCast_nonneg _)
  rw [fits, Bool.and_eq_true, decide_eq_true_eq, decide_eq_true_eq]
  exact ⟨hneg.trans (Int.natCast_nonneg n), Int.ofNat_lt.2 hn⟩

/-- **A natural number is read back from its digits** if it fits. -/
theorem integer?_toDigits {n : Nat} (hn : n < 2 ^ 63) :
    integer? (Nat.toDigits 10 n) = some (.integer n) := by
  have hdigits : ∀ c ∈ Nat.toDigits 10 n, c.isDigit = true := fun c ↦ isDigit_of_mem_toDigits
  have hvalue : ofDigits 10 (Nat.toDigits 10 n) = n := by
    rw [ofDigits_eq_ofDigitChars hdigits, Nat.ofDigitChars_ten_toDigits]
  have hzero := length_toDigits_eq_one_or n
  have hne : Nat.toDigits 10 n ≠ [] := Nat.toDigits_ne_nil
  -- from here on only the digits count, not how they came about
  generalize Nat.toDigits 10 n = ds at hdigits hvalue hzero hne ⊢
  have hdecimal : decimalDigits? ds = some ds := by
    have hunderscore : '_' ∉ ds := fun h ↦ absurd (hdigits _ h) (by decide)
    have hall : ds.all Char.isDigit = true := List.all_eq_true.2 hdigits
    simp only [decimalDigits?, digits?, List.splitOn_eq_singleton hunderscore]
    simp [hne, hall, hzero]
  have hbase : base? ds = none := by
    rw [base?.eq_def]
    split
    iterate 3 · simp at hzero
    · rfl
  have hsign : splitSign ds = (false, ds) := by
    rw [splitSign.eq_def]
    split
    · exact absurd (hdigits _ List.mem_cons_self) (by decide)
    · exact absurd (hdigits _ List.mem_cons_self) (by decide)
    · rfl
  simp -implicitDefEqProofs [integer?, hbase, hsign, hdecimal, hvalue, fits_natCast hn]

theorem isWordChar_of_isDigit {c : Char} (h : c.isDigit = true) : isWordChar c = true := by
  have halphanum : c.isAlphanum = true := by rw [Char.isAlphanum, h, Bool.or_true]
  simp [isWordChar, halphanum]

theorem ofWord?_toDigits {n : Nat} (hn : n < 2 ^ 63) :
    ofWord? (Nat.toDigits 10 n) = some (.integer n) := by
  have hdigit {word : List Char} (hword : word.all Char.isDigit = false) :
      Nat.toDigits 10 n ≠ word := by
    rintro rfl
    rw [List.all_eq_true.2 fun _ hc ↦ isDigit_of_mem_toDigits hc] at hword
    cases hword
  rw [ofWord?, if_neg (hdigit (by decide)), if_neg (hdigit (by decide)), integer?_toDigits hn]
  rfl

theorem value?_toDigits {n : Nat} (hn : n < 2 ^ 63) (rest : List Char) :
    value? (Nat.toDigits 10 n ++ '\n' :: rest) = some (.integer n, '\n' :: rest) :=
  value?_word Nat.toDigits_ne_nil (fun _ hc ↦ isWordChar_of_isDigit (isDigit_of_mem_toDigits hc))
    (ofWord?_toDigits hn) (by decide) (by decide)

/-- A truth value is read back from its word. -/
theorem value?_bool (b : Bool) (rest : List Char) :
    value? ((toString b).toList ++ '\n' :: rest) = some (.bool b, '\n' :: rest) := by
  cases b with
  | false =>
    exact value?_word (by decide) (List.all_eq_true.1 (by decide)) rfl (by decide) (by decide)
  | true =>
    exact value?_word (by decide) (List.all_eq_true.1 (by decide)) rfl (by decide) (by decide)

/-! ### Texts -/

theorem endsQuoted_cons {c : Char} (hbasic : c ≠ '"') (hliteral : c ≠ '\'') (rest : List Char) :
    EndsQuoted (c :: rest) := by
  simp [EndsQuoted, hbasic, hliteral]

/-- A quoted text is a value at every depth. -/
theorem valueWithin?_quotedChars (depth : Nat) (s : String) {rest : List Char}
    (hrest : EndsQuoted rest) :
    valueWithin? (depth + 1) (quotedChars s.toList ++ rest) = some (.text s, rest) := by
  have htext := text?_quotedChars s.toList hrest
  rw [String.ofList_toList] at htext
  rcases head?_quotedChars s.toList with hhead | hhead <;>
    obtain ⟨tail, htail⟩ := List.head?_eq_some_iff.1 hhead
  · rw [htail] at htext ⊢
    rw [List.cons_append, valueWithin?, ← List.cons_append, htext]
    rfl
  · rw [htail] at htext ⊢
    rw [List.cons_append, valueWithin?, ← List.cons_append, htext]
    rfl

/-! ### Gaps in lists -/

/-- Whether characters start with something else than what is passed over in a list. -/
def NoGap (cs : List Char) : Prop :=
  ∀ c ∈ cs.head?, isBlank c = false ∧ c ≠ '#' ∧ c ≠ '\n' ∧ c ≠ '\r'

section

variable {cs : List Char}

/-- Blanks are skipped up to what is no gap. -/
theorem skipBlanks_replicate_append (h : NoGap cs) (k : Nat) :
    skipBlanks (List.replicate k ' ' ++ cs) = cs := by
  have hstop : cs.dropWhile isBlank = cs := by
    cases cs with
    | nil => rfl
    | cons c cs => exact List.dropWhile_cons_of_neg (by simp [h c rfl])
  rw [skipBlanks, List.dropWhile_append_of_pos (by simp [isBlank]), hstop]

/-- What is no gap does not begin with a comment or the end of a line. -/
theorem lineEnd?_skipComment (h : NoGap cs) : lineEnd? (skipComment cs) = none := by
  cases cs with
  | nil => rfl
  | cons c cs =>
    obtain ⟨-, hcomment, hline, hreturn⟩ := h c rfl
    have hskip : skipComment (c :: cs) = c :: cs := by
      rw [skipComment]
      exact fun rest h ↦ hcomment (List.cons.inj h).1
    rw [hskip, lineEnd?]
    · exact fun rest h ↦ hline (List.cons.inj h).1
    · exact fun rest h ↦ hreturn (List.cons.inj h).1

theorem skipLines_replicate_append (h : NoGap cs) (n k : Nat) :
    skipLines (n + 1) (List.replicate k ' ' ++ cs) = cs := by
  simp [skipLines, skipBlanks_replicate_append h, lineEnd?_skipComment h]

theorem skipGap_of_noGap (h : NoGap cs) : skipGap cs = cs := by
  cases cs with
  | nil => rfl
  | cons c cs => exact skipLines_replicate_append h cs.length 0

/-- A line end and the blanks at the start of the next line are passed over. -/
theorem skipGap_newline (h : NoGap cs) (hne : cs ≠ []) (k : Nat) :
    skipGap ('\n' :: (List.replicate k ' ' ++ cs)) = cs := by
  obtain ⟨n, hn⟩ : ∃ n, (List.replicate k ' ' ++ cs).length = n + 1 :=
    Nat.exists_eq_succ_of_ne_zero (by simp [hne])
  rw [skipGap, List.length_cons, hn]
  exact skipLines_replicate_append h n k

end

/-- A quoted text is no gap. -/
theorem noGap_quotedChars (cs rest : List Char) : NoGap (quotedChars cs ++ rest) := by
  rcases head?_quotedChars cs with hhead | hhead <;>
    obtain ⟨tail, htail⟩ := List.head?_eq_some_iff.1 hhead <;>
    rw [htail] <;>
    rintro c ⟨⟩ <;>
    decide

/-! ### Lists -/

/-- The characters of an item on a line of its own. -/
def itemLine (s : String) : List Char := List.replicate 4 ' ' ++ quotedChars s.toList ++ [',', '\n']

/-- The lines of a list are those of its items, one after the other. -/
theorem toList_join_itemLines (items : List String) :
    (String.join (items.map fun s ↦ "    " ++ quotedText s ++ ",\n")).toList =
      items.flatMap itemLine := by
  rw [String.toList_join, List.flatMap_map]
  refine List.flatMap_congr fun s _ ↦ ?_
  simp [quotedText, itemLine]

/-- Each item takes a character at least, so that the length of the text bounds the number of
items. -/
theorem length_le_length_flatMap_itemLine (items : List String) :
    items.length ≤ (items.flatMap itemLine).length := by
  induction items with
  | nil => exact Nat.zero_le _
  | cons s items ih =>
    have hline : 0 < (itemLine s).length := by simp [itemLine]
    rw [List.flatMap_cons, List.length_append, List.length_cons]
    omega

theorem noGap_cons {c : Char} (hblank : isBlank c = false) (hcomment : c ≠ '#') (hline : c ≠ '\n')
    (hreturn : c ≠ '\r') (rest : List Char) : NoGap (c :: rest) := by
  rintro c ⟨⟩
  exact ⟨hblank, hcomment, hline, hreturn⟩

theorem noGap_closeBracket (rest : List Char) : NoGap (']' :: rest) :=
  noGap_cons (by decide) (by decide) (by decide) (by decide) rest

theorem noGap_comma (rest : List Char) : NoGap (',' :: rest) :=
  noGap_cons (by decide) (by decide) (by decide) (by decide) rest

section

variable {depth n : Nat} {cs rest : List Char}

theorem listItems?_closeBracket (h : skipGap cs = ']' :: rest) (value : Reader Value) :
    listItems? value (n + 1) cs = some ([], rest) := by
  simp only [listItems?, h]

/-- The first item is a quoted text, and what stands behind it decides whether there are others. -/
theorem listItems?_quotedChars {s : String} (hrest : EndsQuoted rest)
    (h : skipGap cs = quotedChars s.toList ++ rest) :
    listItems? (valueWithin? (depth + 1)) (n + 1) cs =
      match skipGap rest with
      | ',' :: more => (listItems? (valueWithin? (depth + 1)) n more).map fun (items, rest) ↦
          (.text s :: items, rest)
      | ']' :: more => some ([.text s], more)
      | _ => none := by
  have hread := valueWithin?_quotedChars depth s hrest
  rw [← h] at hread
  have hitem : ∀ more, skipGap cs ≠ ']' :: more := by
    intro more hclose
    rw [hclose] at h
    rcases head?_quotedChars s.toList with hhead | hhead <;>
      obtain ⟨tail, htail⟩ := List.head?_eq_some_iff.1 hhead <;>
      rw [htail] at h <;>
      cases h
  rw [listItems?]
  split
  · next hclose => exact absurd hclose (hitem _)
  · rw [hread]
    show (match skipGap rest with | ',' :: more => _ | ']' :: more => _ | _ => none) = _
    split
    · next more _ => cases listItems? (valueWithin? (depth + 1)) n more <;> rfl
    · rfl
    · rfl

/-- Items on lines of their own are read back in order, with a comma behind the last one. -/
theorem listItems?_itemLines {items : List String} (hn : items.length < n) (rest : List Char) :
    listItems? (valueWithin? (depth + 1)) n ('\n' :: (items.flatMap itemLine ++ ']' :: rest)) =
      some (items.map .text, rest) := by
  induction items generalizing n with
  | nil =>
    obtain ⟨n, rfl⟩ := Nat.exists_eq_succ_of_ne_zero (Nat.ne_of_gt hn)
    have hgap := skipGap_newline (noGap_closeBracket rest) (List.cons_ne_nil _ _) 0
    exact listItems?_closeBracket hgap _
  | cons s items ih =>
    obtain ⟨n, rfl⟩ := Nat.exists_eq_succ_of_ne_zero (Nat.ne_of_gt (Nat.zero_lt_of_lt hn))
    have hrest := ih (Nat.lt_of_succ_lt_succ hn)
    generalize hmore : items.flatMap itemLine ++ ']' :: rest = more at hrest
    have hgap := skipGap_newline (noGap_quotedChars s.toList (',' :: '\n' :: more)) (by simp) 4
    have happend : '\n' :: ((s :: items).flatMap itemLine ++ ']' :: rest) =
        '\n' :: (List.replicate 4 ' ' ++ (quotedChars s.toList ++ ',' :: '\n' :: more)) := by
      simp [itemLine, ← hmore]
    rw [happend, listItems?_quotedChars (endsQuoted_cons (by decide) (by decide) _) hgap,
      skipGap_of_noGap (noGap_comma _)]
    show Option.map _ (listItems? _ n ('\n' :: more)) = _
    rw [hrest]
    rfl

/-- A bracket begins a list, with as much depth left as there can be. -/
theorem value?_openBracket {items : List Value}
    (h : listItems? (valueWithin? 79) (cs.length + 1) cs = some (items, rest)) :
    value? ('[' :: cs) = some (.list items, rest) := by
  rw [value?, maxDepth, valueWithin?]
  show list? _ cs = _
  rw [list?, h]
  rfl

end

/-- **A list of texts is read back from its text**, whether it is written on one line or on
several. -/
theorem value?_listText (items : List String) (rest : List Char) :
    value? ((listText items).toList ++ rest) = some (.list (items.map .text), rest) := by
  rcases items with - | ⟨first, - | ⟨second, items⟩⟩
  · exact value?_openBracket
      (listItems?_closeBracket (skipGap_of_noGap (noGap_closeBracket _)) _)
  · have hchars : (listText [first]).toList ++ rest =
        '[' :: (quotedChars first.toList ++ ']' :: rest) := by
      simp [listText, quotedText]
    rw [hchars]
    refine value?_openBracket ?_
    have hgap := skipGap_of_noGap (noGap_quotedChars first.toList (']' :: rest))
    rw [listItems?_quotedChars (endsQuoted_cons (by decide) (by decide) rest) hgap,
      skipGap_of_noGap (noGap_closeBracket rest)]
    rfl
  · have hchars : (listText (first :: second :: items)).toList ++ rest =
        '[' :: '\n' :: ((first :: second :: items).flatMap itemLine ++ ']' :: rest) := by
      rw [listText, String.toList_append, String.toList_append, toList_join_itemLines]
      · simp
      · simp
      · simp
    have hlength := length_le_length_flatMap_itemLine (first :: second :: items)
    rw [hchars]
    refine value?_openBracket (listItems?_itemLines ?_ rest)
    refine Nat.lt_succ_of_le (hlength.trans (le_trans ?_ (Nat.le_succ _)))
    rw [List.length_append]
    exact Nat.le_add_right ..

/-- **What an entry holds is read back as it was.** -/
theorem value?_render {w : Written} (hw : w.IsReadable) (rest : List Char) :
    value? (w.render.toList ++ '\n' :: rest) = some (w.value, '\n' :: rest) := by
  cases w with
  | bool b => exact value?_bool b rest
  | nat n =>
    rw [Written.render, toList_toString_nat]
    exact value?_toDigits hw rest
  | text s =>
    rw [Written.render, quotedText, String.toList_ofList]
    exact valueWithin?_quotedChars 79 s (endsQuoted_cons (by decide) (by decide) rest)
  | list items => exact value?_listText items ('\n' :: rest)

end JavaDeps.Toml
