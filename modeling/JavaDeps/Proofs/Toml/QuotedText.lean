import JavaDeps.Toml.Text
import JavaDeps.Toml.Writer
import Mathlib.Data.List.TakeWhile
import Mathlib.Tactic.IntervalCases

/-!
# Quoted texts as texts

A text may be written in four kinds of quotes, and the kind is chosen so that it holds the text. **A
quoted text reads as the text that was quoted** (`text?_quotedChars`), unless another quote follows
it.

Over several lines a quote can stand for itself as long as no three come together: up to two of them
right before the closing ones belong to the text (`Shows`).
-/

namespace JavaDeps.Toml

/-! ### Escapes -/

/-- Whether the characters behind a backslash stand for `c`, whatever follows them. -/
structure StandsFor (unit : List Char) (c : Char) : Prop where
  escaped (more : List Char) : escaped? (unit ++ more) = some (c, unit.length)
  folded (more : List Char) : foldedLine? (unit ++ more) = none

theorem standsFor_quote : StandsFor ['"'] '"' := ⟨fun _ ↦ rfl, fun _ ↦ rfl⟩

theorem hexDigit?_upperHexDigit {d : Nat} (hd : d < 16) :
    hexDigit? (upperHexDigit d) = some d := by
  interval_cases d <;> rfl

/-- A character below 128 is read back from the four digits of its number. -/
theorem hexChar?_of_lt {c : Char} (hc : c.toNat < 0x80) (more : List Char) :
    hexChar? 4
        ('0' :: '0' :: upperHexDigit (c.toNat / 16) :: upperHexDigit (c.toNat % 16) :: more) =
      some c := by
  have hhigh := hexDigit?_upperHexDigit (d := c.toNat / 16) (by omega)
  have hlow := hexDigit?_upperHexDigit (d := c.toNat % 16) (by omega)
  have hcode : 16 * (c.toNat / 16) + c.toNat % 16 = c.toNat := Nat.div_add_mod ..
  have hzero : hexDigit? '0' = some 0 := rfl
  have hvalid : c.toNat.isValidChar := c.valid
  simp [hexChar?, hzero, hhigh, hlow, hcode, hvalid]

theorem standsFor_hex {c : Char} (hc : c.toNat < 0x80) :
    StandsFor ['u', '0', '0', upperHexDigit (c.toNat / 16), upperHexDigit (c.toNat % 16)] c where
  escaped more := congrArg (Option.map (·, 5)) (hexChar?_of_lt hc more)
  folded _ := rfl

/-- Inside of quotes with escapes a character stands for itself or is escaped. -/
theorem writtenChar_cases (multi : Bool) (c : Char) :
    (writtenChar multi c = [c] ∧ c ≠ '\\' ∧ (isPlain c = true ∨ multi = true ∧ c = '\n')) ∨
      ∃ unit, writtenChar multi c = '\\' :: unit ∧ StandsFor unit c := by
  have hcode {n : Nat} (h : c.toNat = n) : c = Char.ofNat n := by rw [← h, Char.ofNat_toNat]
  rw [writtenChar]
  split
  · next hslash =>
    subst hslash
    exact .inr ⟨['\\'], rfl, fun _ ↦ rfl, fun _ ↦ rfl⟩
  · next hslash =>
    split
    · next hline =>
      rw [Bool.and_eq_true, decide_eq_true_eq] at hline
      exact .inl ⟨rfl, hslash, .inr hline.symm⟩
    · split
      · next h => exact .inr ⟨['b'], rfl, hcode h ▸ ⟨fun _ ↦ rfl, fun _ ↦ rfl⟩⟩
      · next h => exact .inr ⟨['t'], rfl, hcode h ▸ ⟨fun _ ↦ rfl, fun _ ↦ rfl⟩⟩
      · next h => exact .inr ⟨['n'], rfl, hcode h ▸ ⟨fun _ ↦ rfl, fun _ ↦ rfl⟩⟩
      · next h => exact .inr ⟨['f'], rfl, hcode h ▸ ⟨fun _ ↦ rfl, fun _ ↦ rfl⟩⟩
      · next h => exact .inr ⟨['r'], rfl, hcode h ▸ ⟨fun _ ↦ rfl, fun _ ↦ rfl⟩⟩
      · split
        · next hcontrol =>
          rw [Bool.or_eq_true, decide_eq_true_eq, beq_iff_eq] at hcontrol
          exact .inr ⟨_, rfl, standsFor_hex (by omega)⟩
        · next hcontrol =>
          rw [Bool.or_eq_true, decide_eq_true_eq, beq_iff_eq, not_or] at hcontrol
          refine .inl ⟨rfl, hslash, .inl ?_⟩
          simp only [isPlain, Bool.or_eq_true, beq_iff_eq, Bool.and_eq_true, decide_eq_true_eq,
            bne_iff_ne]
          omega

/-! ### On one line -/

theorem basic?_cons {c : Char} (hquote : c ≠ '"') (hslash : c ≠ '\\') (hplain : isPlain c = true)
    (rest : List Char) : basic? (c :: rest) = consText c (basic? rest) := by
  rw [basic?, if_neg hquote, if_neg hslash, if_pos hplain]

theorem basic?_escape {unit : List Char} {c : Char} (h : StandsFor unit c) (rest : List Char) :
    basic? ('\\' :: (unit ++ rest)) = consText c (basic? rest) := by
  rw [basic?, if_neg (by decide), if_pos rfl, h.escaped]
  show consText c (basic? ((unit ++ rest).drop unit.length)) = _
  rw [List.drop_left]

/-- **A text is read back from between double quotes**, with the escapes that it needs. -/
theorem basic?_writtenChars (run : Nat) (cs rest : List Char) :
    basic? (writtenChars false run cs ++ '"' :: rest) = some (cs, rest) := by
  induction cs generalizing run with
  | nil => rw [writtenChars, List.nil_append, basic?, if_pos rfl]
  | cons c cs ih =>
    rw [writtenChars]
    split
    · next hquote =>
      have hescape := basic?_escape standsFor_quote (writtenChars false 0 cs ++ '"' :: rest)
      rw [ih] at hescape
      rw [if_neg Bool.false_ne_true, if_neg (Nat.not_lt_zero run), hquote]
      exact hescape
    · next hquote =>
      rcases writtenChar_cases false c with ⟨hself, hslash, hplain⟩ | ⟨unit, hescape, hunit⟩
      · have hplain : isPlain c = true := by simpa using hplain
        rw [hself, List.singleton_append, List.cons_append, basic?_cons hquote hslash hplain, ih]
        rfl
      · rw [hescape, List.cons_append, List.cons_append, List.append_assoc, basic?_escape hunit, ih]
        rfl

/-- A text without single quotes and controls is read back from between single quotes. -/
theorem literal?_append {cs : List Char} (h : ∀ c ∈ cs, c ≠ '\'' ∧ isPlain c = true)
    (rest : List Char) : literal? (cs ++ '\'' :: rest) = some (cs, rest) := by
  induction cs with
  | nil => rw [List.nil_append, literal?, if_pos rfl]
  | cons c cs ih =>
    obtain ⟨⟨hquote, hplain⟩, hcs⟩ := List.forall_mem_cons.1 h
    rw [List.cons_append, literal?, if_neg hquote, if_pos hplain, ih hcs]
    rfl

/-! ### Over several lines -/

/-- How characters over several lines show a text, where `run` quotes came right before them. -/
inductive Shows (quote : Char) (escapes : Bool) : Nat → List Char → List Char → Prop
  | nil (run : Nat) : Shows quote escapes run [] []
  | quote {run : Nat} {text written : List Char} (hrun : run < 2)
      (h : Shows quote escapes (run + 1) text written) :
      Shows quote escapes run (quote :: text) (quote :: written)
  | self {run : Nat} {c : Char} {text written : List Char} (hquote : c ≠ quote)
      (hslash : escapes = true → c ≠ '\\') (hplain : isPlain c = true ∨ c = '\n')
      (h : Shows quote escapes 0 text written) : Shows quote escapes run (c :: text) (c :: written)
  | escape {run : Nat} {c : Char} {unit text written : List Char} (hescapes : escapes = true)
      (hunit : StandsFor unit c) (h : Shows quote escapes 0 text written) :
      Shows quote escapes run (c :: text) ('\\' :: (unit ++ written))

section

variable {quote : Char} {escapes : Bool} {run : Nat} {text written rest : List Char}

/-- Quotes in a row are counted up to the first other character. -/
theorem takeWhile_replicate_append (hrest : rest.head? ≠ some quote) (k : Nat) :
    (List.replicate k quote ++ rest).takeWhile (· == quote) = List.replicate k quote := by
  have hstop : rest.takeWhile (· == quote) = [] := by
    cases rest with
    | nil => rfl
    | cons c rest => exact List.takeWhile_cons_of_neg (by simpa using hrest)
  rw [List.takeWhile_append_of_pos (by simp), hstop, List.append_nil]

/-- Fewer than three quotes close nothing. -/
theorem closing?_replicate_of_lt {k : Nat} (hk : k < 3) (hrest : rest.head? ≠ some quote) :
    closing? quote (List.replicate k quote ++ rest) = none := by
  have hfew : ¬3 ≤ min 5 k := by omega
  simp [closing?, takeWhile_replicate_append hrest, hfew]

/-- Up to two quotes before the closing ones belong to the text. -/
theorem closing?_replicate_of_le {k : Nat} (hk : k ≤ 2) (hrest : rest.head? ≠ some quote) :
    closing? quote (List.replicate k quote ++ quote :: quote :: quote :: rest) =
      some (List.replicate k quote, rest) := by
  have hall : List.replicate k quote ++ quote :: quote :: quote :: rest =
      List.replicate (k + 3) quote ++ rest := by
    rw [List.append_cons, List.append_cons, List.append_cons, ← List.replicate_succ',
      ← List.replicate_succ', ← List.replicate_succ']
  have hmin : min 5 (k + 3) = k + 3 := by omega
  simp [hall, closing?, takeWhile_replicate_append hrest, hmin]

/-- The quotes in front are the whole text, or something else stands behind them. -/
theorem Shows.exists_replicate (hslash : quote ≠ '\\') (h : Shows quote escapes run text written) :
    ∃ k ≤ 2 - run, (written = List.replicate k quote ∧ text = List.replicate k quote) ∨
      ∃ c more, written = List.replicate k quote ++ c :: more ∧ c ≠ quote := by
  induction h with
  | nil run => exact ⟨0, Nat.zero_le _, .inl ⟨rfl, rfl⟩⟩
  | quote hrun h ih =>
    obtain ⟨k, hk, ⟨rfl, rfl⟩ | ⟨c, more, rfl, hc⟩⟩ := ih
    · exact ⟨k + 1, by omega, .inl ⟨rfl, rfl⟩⟩
    · exact ⟨k + 1, by omega, .inr ⟨c, more, rfl, hc⟩⟩
  | self hquote => exact ⟨0, Nat.zero_le _, .inr ⟨_, _, rfl, hquote⟩⟩
  | escape => exact ⟨0, Nat.zero_le _, .inr ⟨_, _, rfl, hslash.symm⟩⟩

/-- Quotes within a text of several lines end it if there are three of them, and stand for
themselves otherwise. -/
theorem multiline?_quote (rest : List Char) :
    multiline? quote escapes (quote :: rest) = match closing? quote (quote :: rest) with
      | some found => some found
      | none => consText quote (multiline? quote escapes rest) := by
  rw [multiline?.eq_def]
  exact if_pos rfl

/-- A character that need not be escaped is read as itself in a text of several lines. -/
theorem multiline?_self {c : Char} (hquote : c ≠ quote) (hslash : escapes = true → c ≠ '\\')
    (hplain : isPlain c = true ∨ c = '\n') (rest : List Char) :
    multiline? quote escapes (c :: rest) = consText c (multiline? quote escapes rest) := by
  have hescape : ¬(escapes && c == '\\') = true := by simpa using hslash
  have hreturn : c ≠ '\r' := by
    rintro rfl
    exact absurd hplain (by decide)
  rw [multiline?.eq_def]
  simp only [if_neg hquote, if_neg hreturn, if_neg hescape]
  split
  · rfl
  · next hline => rw [if_pos (hplain.resolve_right hline)]

/-- An escape is read as what it stands for, where there are escapes. -/
theorem multiline?_escape {unit : List Char} {c : Char} (hquote : '\\' ≠ quote)
    (h : StandsFor unit c) (rest : List Char) :
    multiline? quote true ('\\' :: (unit ++ rest)) = consText c (multiline? quote true rest) := by
  rw [multiline?.eq_def]
  simp only [if_neg hquote, h.folded, h.escaped, List.drop_left]
  rfl

/-- **What shows a text is read as that text**, up to the quotes that close it. -/
theorem multiline?_of_shows (hslash : '\\' ≠ quote) (h : Shows quote escapes run text written)
    (hrest : rest.head? ≠ some quote) :
    multiline? quote escapes (written ++ quote :: quote :: quote :: rest) = some (text, rest) := by
  induction h with
  | nil run =>
    have hclose := closing?_replicate_of_le (Nat.zero_le 2) hrest
    rw [List.replicate_zero, List.nil_append] at hclose
    rw [List.nil_append, multiline?_quote, hclose]
  | @quote run text written hrun h ih =>
    rw [List.cons_append, multiline?_quote]
    obtain ⟨k, hk, ⟨rfl, rfl⟩ | ⟨c, more, rfl, hc⟩⟩ := h.exists_replicate hslash.symm
    · have hclose := closing?_replicate_of_le (k := k + 1) (by omega) hrest
      rw [List.replicate_succ, List.cons_append] at hclose
      rw [hclose]
    · have hopen := closing?_replicate_of_lt (k := k + 1) (by omega)
        (show (c :: (more ++ quote :: quote :: quote :: rest)).head? ≠ some quote by simpa using hc)
      rw [List.replicate_succ, List.cons_append] at hopen
      rw [List.append_assoc, List.cons_append] at ih ⊢
      rw [hopen, ih]
      rfl
  | self hquote hslash hplain h ih =>
    rw [List.cons_append, multiline?_self hquote hslash hplain, ih]
    rfl
  | @escape run c unit text written hescapes hunit h ih =>
    subst hescapes
    rw [List.cons_append, List.append_assoc, multiline?_escape hslash hunit, ih]
    rfl

/-- A line end in front of what shows a text is one of the text. -/
theorem Shows.skipFirstLineEnd_append (hquote : quote ≠ '\n' ∧ quote ≠ '\r')
    (h : Shows quote escapes run text written) (htext : '\n' ∉ text) :
    skipFirstLineEnd (written ++ quote :: rest) = written ++ quote :: rest := by
  have hstart {c : Char} (hline : c ≠ '\n') (hreturn : c ≠ '\r') (cs : List Char) :
      skipFirstLineEnd (c :: cs) = c :: cs := by
    rw [skipFirstLineEnd, lineEnd?.eq_def]
    split <;> simp_all
  cases h with
  | nil => exact hstart hquote.1 hquote.2 _
  | quote => exact hstart hquote.1 hquote.2 _
  | @self run c text written _ _ hplain =>
    have hline : c ≠ '\n' := fun h ↦ htext (h ▸ List.mem_cons_self)
    refine hstart hline ?_ _
    rintro rfl
    exact absurd hplain (by decide)
  | escape => exact hstart (by decide) (by decide) _

end

/-- A text that is written over several lines shows itself, since a third quote in a row is
escaped. -/
theorem shows_writtenChars {run : Nat} (hrun : run ≤ 2) (cs : List Char) :
    Shows '"' true run cs (writtenChars true run cs) := by
  induction cs generalizing run with
  | nil => exact .nil run
  | cons c cs ih =>
    rw [writtenChars]
    split
    · next hquote =>
      subst hquote
      rw [if_pos rfl]
      split
      · next hfew => exact .quote hfew (ih hfew)
      · exact .escape rfl standsFor_quote (ih (Nat.zero_le 2))
    · next hquote =>
      rcases writtenChar_cases true c with ⟨hself, hslash, hplain⟩ | ⟨unit, hescape, hunit⟩
      · rw [hself]
        exact .self hquote (fun _ ↦ hslash) (hplain.imp_right And.right) (ih (Nat.zero_le 2))
      · rw [hescape]
        exact .escape rfl hunit (ih (Nat.zero_le 2))

/-- The longest run of a character is at least as long as the run that comes before the text. -/
theorem le_longestRun (c : Char) (run : Nat) (cs : List Char) : run ≤ longestRun c run cs := by
  induction cs generalizing run with
  | nil => exact le_rfl
  | cons d cs ih =>
    rw [longestRun]
    split
    · exact (Nat.le_succ run).trans (ih (run + 1))
    · exact Nat.le_max_left ..

/-- A character without a run does not occur. -/
theorem not_mem_of_longestRun_eq_zero {c : Char} {cs : List Char} (h : longestRun c 0 cs = 0) :
    c ∉ cs := by
  induction cs with
  | nil => exact List.not_mem_nil
  | cons d cs ih =>
    rw [longestRun] at h
    split at h
    · have hpositive := le_longestRun c (0 + 1) cs
      omega
    · next hd =>
      have hrest : longestRun c 0 cs = 0 := by omega
      rw [List.mem_cons, not_or]
      exact ⟨fun heq ↦ hd heq.symm, ih hrest⟩

/-- A text without three single quotes in a row shows itself between such quotes. -/
theorem shows_self {run : Nat} {cs : List Char} (hplain : ∀ c ∈ cs, isPlain c = true ∨ c = '\n')
    (hrun : longestRun '\'' run cs ≤ 2) : Shows '\'' false run cs cs := by
  induction cs generalizing run with
  | nil => exact .nil run
  | cons c cs ih =>
    obtain ⟨hc, hcs⟩ := List.forall_mem_cons.1 hplain
    rw [longestRun] at hrun
    split at hrun
    · next hquote =>
      subst hquote
      exact .quote (lt_of_lt_of_le (Nat.lt_succ_self run) ((le_longestRun _ _ cs).trans hrun))
        (ih hcs hrun)
    · next hquote =>
      exact .self hquote (fun h ↦ absurd h Bool.false_ne_true) hc
        (ih hcs (le_trans (Nat.le_max_right ..) hrun))

/-! ### Quoted texts -/

/-- In a text without controls every character may stand for itself, but for the ends of lines. -/
theorem Traits.isPlain_of_controls_eq_false {cs : List Char} (h : (ofText cs).controls = false) :
    ∀ c ∈ cs, isPlain c = true ∨ c = '\n' := by
  intro c hc
  have hcontrol : isControl c = false := by simpa using List.any_eq_false.1 h c hc
  by_cases hline : c = '\n'
  · exact .inr hline
  by_cases htab : c = '\t'
  · exact .inl (htab ▸ rfl)
  rw [isControl, bne_iff_ne.2 hline, bne_iff_ne.2 htab, Bool.and_true, Bool.and_true,
    Bool.or_eq_false_iff, decide_eq_false_iff_not, beq_eq_false_iff_ne] at hcontrol
  refine .inl ?_
  simp only [isPlain, Bool.or_eq_true, beq_iff_eq, Bool.and_eq_true, decide_eq_true_eq, bne_iff_ne]
  omega

theorem Quoting.of_choose_eq_literal {t : Traits} (h : choose t = .literal) :
    t.controls = false ∧ t.singleRun = 0 ∧ t.newlines = false := by
  rw [choose] at h
  repeat' split at h
  all_goals simp_all

theorem Quoting.of_choose_eq_multiLiteral {t : Traits} (h : choose t = .multiLiteral) :
    t.controls = false ∧ t.singleRun ≤ 2 := by
  rw [choose] at h
  repeat' split at h
  all_goals simp_all

/-- Whether characters do not go on with a quote. -/
def EndsQuoted (rest : List Char) : Prop := rest.head? ≠ some '"' ∧ rest.head? ≠ some '\''

/-- Two quotes that nothing, or something else, stands between do not open several lines. -/
theorem text?_eq_shortText? {quote : Char} {written rest : List Char}
    (hwritten : written.head? ≠ some quote) (hrest : rest.head? ≠ some quote) :
    text? (quote :: (written ++ quote :: rest)) =
      shortText? (quote :: (written ++ quote :: rest)) := by
  have hapart : ∀ more, written ++ quote :: rest ≠ quote :: quote :: more := by
    intro more h
    cases written with
    | nil => exact hrest (by rw [(List.cons.inj h).2]; rfl)
    | cons c written => exact hwritten (by rw [(List.cons.inj h).1]; rfl)
  rw [text?.eq_def]
  split
  · next h =>
    obtain ⟨rfl, h⟩ := List.cons.inj h
    exact absurd h (hapart _)
  · next h =>
    obtain ⟨rfl, h⟩ := List.cons.inj h
    exact absurd h (hapart _)
  · rfl

theorem head?_writtenChars_ne (cs : List Char) : (writtenChars false 0 cs).head? ≠ some '"' := by
  cases cs with
  | nil => exact Option.some_ne_none _ ∘ Eq.symm
  | cons c cs =>
    rw [writtenChars]
    split
    · exact fun h ↦ absurd (Option.some.inj h) (by decide)
    · next hquote =>
      rcases writtenChar_cases false c with ⟨hself, -, -⟩ | ⟨unit, hescape, -⟩
      · rw [hself]
        exact fun h ↦ hquote (Option.some.inj h)
      · rw [hescape]
        exact fun h ↦ absurd (Option.some.inj h) (by decide)

/-- A text over several lines starts on the first line, or after a line end of its own. -/
theorem skipFirstLineEnd_append {quote : Char} {escapes : Bool} {run : Nat}
    {text written rest : List Char} (hquote : quote ≠ '\n' ∧ quote ≠ '\r')
    (h : Shows quote escapes run text written) :
    skipFirstLineEnd ((if text.contains '\n' then ['\n'] else []) ++ written ++ quote :: rest) =
      written ++ quote :: rest := by
  split
  · rfl
  · next hline => exact h.skipFirstLineEnd_append hquote (by simpa using hline)

/-- A text that shows itself between three quotes is read back from there, also if it has several
lines. -/
theorem text?_of_shows {quote : Char} {escapes : Bool} {run : Nat} {text written rest : List Char}
    (hquote : quote = '"' ∧ escapes = true ∨ quote = '\'' ∧ escapes = false)
    (h : Shows quote escapes run text written) (hrest : rest.head? ≠ some quote) :
    text? (List.replicate 3 quote ++ (if text.contains '\n' then ['\n'] else []) ++ written ++
      List.replicate 3 quote ++ rest) = some (String.ofList text, rest) := by
  have happend : List.replicate 3 quote ++ (if text.contains '\n' then ['\n'] else []) ++ written ++
      List.replicate 3 quote ++ rest = quote :: quote :: quote ::
        ((if text.contains '\n' then ['\n'] else []) ++ written ++
          quote :: quote :: quote :: rest) := by
    simp [List.replicate_succ]
  rw [happend]
  rcases hquote with ⟨rfl, rfl⟩ | ⟨rfl, rfl⟩
  · rw [text?, skipFirstLineEnd_append (by decide) h, multiline?_of_shows (by decide) h hrest]
    rfl
  · rw [text?, skipFirstLineEnd_append (by decide) h, multiline?_of_shows (by decide) h hrest]
    rfl

/-- **A quoted text reads as the text that was quoted.** -/
theorem text?_quotedChars (cs : List Char) {rest : List Char} (hrest : EndsQuoted rest) :
    text? (quotedChars cs ++ rest) = some (String.ofList cs, rest) := by
  rw [quotedChars]
  cases hchoice : Quoting.choose (Traits.ofText cs) with
  | basic =>
    have happend : '"' :: writtenChars false 0 cs ++ ['"'] ++ rest =
        '"' :: (writtenChars false 0 cs ++ '"' :: rest) := by simp
    show text? ('"' :: writtenChars false 0 cs ++ ['"'] ++ rest) = _
    rw [happend, text?_eq_shortText? (head?_writtenChars_ne cs) hrest.1, shortText?,
      basic?_writtenChars]
    rfl
  | literal =>
    obtain ⟨hcontrols, hrun, hlines⟩ := Quoting.of_choose_eq_literal hchoice
    have hplain : ∀ c ∈ cs, c ≠ '\'' ∧ isPlain c = true := fun c hc ↦
      ⟨fun h ↦ not_mem_of_longestRun_eq_zero hrun (h ▸ hc),
        (Traits.isPlain_of_controls_eq_false hcontrols c hc).resolve_right fun h ↦
          Bool.false_ne_true (hlines.symm.trans (List.contains_iff_mem.2 (h ▸ hc)))⟩
    have hhead : cs.head? ≠ some '\'' := fun h ↦ (hplain _ (List.mem_of_head? h)).1 rfl
    have happend : '\'' :: cs ++ ['\''] ++ rest = '\'' :: (cs ++ '\'' :: rest) := by simp
    show text? ('\'' :: cs ++ ['\''] ++ rest) = _
    rw [happend, text?_eq_shortText? hhead hrest.2, shortText?, literal?_append hplain]
    rfl
  | multiBasic =>
    exact text?_of_shows (.inl ⟨rfl, rfl⟩) (shows_writtenChars (Nat.zero_le 2) cs) hrest.1
  | multiLiteral =>
    obtain ⟨hcontrols, hrun⟩ := Quoting.of_choose_eq_multiLiteral hchoice
    have hplain := Traits.isPlain_of_controls_eq_false hcontrols
    exact text?_of_shows (.inr ⟨rfl, rfl⟩) (shows_self hplain hrun) hrest.2

/-- A quoted text begins with a quote. -/
theorem head?_quotedChars (cs : List Char) :
    (quotedChars cs).head? = some '"' ∨ (quotedChars cs).head? = some '\'' := by
  rw [quotedChars]
  cases Quoting.choose (Traits.ofText cs) with
  | basic => exact .inl rfl
  | literal => exact .inr rfl
  | multiBasic => exact .inl rfl
  | multiLiteral => exact .inr rfl

end JavaDeps.Toml
