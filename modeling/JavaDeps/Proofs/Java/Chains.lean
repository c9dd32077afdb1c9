import JavaDeps.Proofs.Java.Findings
import Mathlib.Data.List.TakeWhile

/-!
# References, one lexeme at a time

The second reading takes chains of names whole and goes on behind them. **It comes to the same as to
look at each lexeme by itself** (`referencesFrom_eq_filterMap`): within a chain, after its head,
nothing makes a reference, so that the jumps neither leave one out nor find one twice.

With what the first reading finds (`Findings`), the names that an accepted source refers to can be
read off its tokens (`scan_references_iff`): which chains there are (`HeadsChain`), what they refer
to where they stand (`RefersTo`, `TypePosition`), and what the source itself explains.
-/

namespace JavaDeps.Java

/-! ### Chains -/

/-- The lexemes of the segments that follow the head of a chain: dots and identifiers, one after
another, with the names that they spell. -/
inductive Members : List Lexeme → List String → Prop
  | nil : Members [] []
  | cons {d s : Lexeme} {ls : List Lexeme} {names : List String} (hdot : d.kind = .dot)
    (hname : s.kind = .identifier) (h : Members ls names) : Members (d :: s :: ls) (s.text :: names)

/-- Whether a chain goes on with these lexemes. -/
def GoesOn (ls : List Lexeme) : Prop := [TokenKind.dot, .identifier] <+: kinds ls

/-- Whether `l` heads a chain with these segments, which reaches up to `after`. The head follows no
dot, and the chain goes on as far as it can. -/
inductive HeadsChain (before : List Lexeme) (l : Lexeme) (rest : List Lexeme) :
    List String → List Lexeme → Prop
  | intro {members after : List Lexeme} {names : List String} (hhead : l.kind = .identifier)
    (hdot : ¬ [TokenKind.dot] <:+ kinds before) (hrest : rest = members ++ after)
    (hmembers : Members members names) (hmaximal : ¬ GoesOn after) :
    HeadsChain before l rest (l.text :: names) after

/-- **Where only a type can stand**: between what stands before a chain and what follows it. -/
inductive TypePosition (before after : List Lexeme) : Prop
  /-- After `new`, `extends` and the like. -/
  | word {pre : List Lexeme} {p : Lexeme} (hbefore : before = pre ++ [p])
    (hp : p.kind = .identifier ∧ p.text ∈ typeWords)
  | firstArgument {k : TokenKind} (hbefore : [TokenKind.less] <:+ kinds before)
    (hk : k = .greater ∨ k = .comma) (hafter : [k] <+: kinds after)
  | lastArgument {k : TokenKind} (hbefore : [TokenKind.comma] <:+ kinds before)
    (hk : k = .identifier ∨ k = .greater ∨ k = .closeParen)
    (hafter : [TokenKind.greater, k] <+: kinds after)
  /-- Before the name of what is declared with the type. -/
  | declared {next : Lexeme} {more : List Lexeme} (hafter : after = next :: more)
    (hnext : next.kind = .identifier ∧ next.text ≠ "instanceof")
  | spread {k : TokenKind} (hk : k = .ellipsis ∨ k = .methodRef) (hafter : [k] <+: kinds after)
  | array (hafter : [TokenKind.openBracket, .closeBracket] <+: kinds after)
  | literal (hafter : [TokenKind.dot, .classWord] <+: kinds after)
  | diamond {k : TokenKind} (hk : k = .greater ∨ k = .operator)
    (hafter : [TokenKind.less, k] <+: kinds after)
  | generic {k : TokenKind} (hk : k = .greater ∨ k = .comma ∨ k = .less)
    (hafter : [TokenKind.less, .identifier, k] <+: kinds after)

/-- **What a chain refers to**, by its segments, and by whether only a type can stand in its place.
A head that is capitalised is the simple name of a type if it is shown to be one, by a lower-case
letter in it or by its place. Otherwise the first segment that is capitalised can be a type, behind
packages. A segment that follows shows it to be one, too. -/
inductive RefersTo (typePlace : Prop) : List String → Reference → Prop
  | simple {name : String} {members : List String} (hname : isCapitalized name = true)
    (hshown : hasLowercase name = true ∨ typePlace) :
    RefersTo typePlace (name :: members) (.simple name)
  | qualified {packages : List String} {type : String} {members : List String}
    (hself : ∀ head ∈ packages.head?, head ∉ selfWords)
    (hpackages : ∀ s ∈ packages, isCapitalized s = false) (hlength : 2 ≤ packages.length)
    (htype : isCapitalized type = true)
    (hshown : hasLowercase type = true ∨ members ≠ [] ∨ typePlace) :
    RefersTo typePlace (packages ++ type :: members) (.qualified (dotted (packages ++ [type])))

/-! ### Lexemes without their marks -/

/-- Some marked lexemes without their marks. -/
def plain (ms : List MarkedLexeme) : List Lexeme := ms.map (·.toLexeme)

@[simp] theorem plain_nil : plain [] = [] := rfl

@[simp] theorem plain_cons (m : MarkedLexeme) (ms : List MarkedLexeme) :
    plain (m :: ms) = m.toLexeme :: plain ms := rfl

theorem plain_append (ms ms' : List MarkedLexeme) : plain (ms ++ ms') = plain ms ++ plain ms' :=
  List.map_append

theorem plain_reverse_reverse (ms : List MarkedLexeme) : (plain ms.reverse).reverse = plain ms := by
  rw [plain, List.map_reverse, List.reverse_reverse]
  rfl

/-- Some kinds stand first just if a lexeme of the first kind does and the others follow. -/
theorem cons_prefix_kinds_iff {k : TokenKind} {ks : List TokenKind} {ms : List MarkedLexeme} :
    k :: ks <+: kinds (plain ms) ↔
      ∃ m more, ms = m :: more ∧ m.kind = k ∧ ks <+: kinds (plain more) := by
  rcases ms with - | ⟨m, more⟩
  · simp [kinds]
  · simp [kinds, List.cons_prefix_cons, eq_comm]

theorem suffix_kinds_reverse_iff {k : TokenKind} {ms : List MarkedLexeme} :
    [k] <:+ kinds (plain ms).reverse ↔ [k] <+: kinds (plain ms) := by
  rw [← List.reverse_prefix, kinds, List.map_reverse, List.reverse_reverse]
  rfl

theorem startsWithKind_iff {ms : List MarkedLexeme} {ks : List TokenKind} :
    startsWithKind ms ks = true ↔ ∃ k ∈ ks, [k] <+: kinds (plain ms) := by
  rcases ms with - | ⟨m, more⟩
  · simp [startsWithKind, kinds]
  · simp [startsWithKind, kinds, List.cons_prefix_cons]

/-- A word stands before a chain that a type follows. -/
theorem afterTypeWord_iff {before : List MarkedLexeme} :
    (before.head?.any fun l ↦ l.kind == .identifier && typeWords.contains l.text) = true ↔
      ∃ pre p, (plain before).reverse = pre ++ [p] ∧ p.kind = .identifier ∧ p.text ∈ typeWords := by
  rcases before with - | ⟨m, before⟩
  · simp
  · constructor
    · intro h
      exact ⟨(plain before).reverse, m.toLexeme, by simp, by simpa using h⟩
    · rintro ⟨pre, p, hbefore, hp⟩
      rw [plain_cons, List.reverse_cons] at hbefore
      obtain ⟨-, ⟨⟩⟩ := List.append_inj' hbefore rfl
      simpa using hp

/-- The lexemes behind are kept in reverse. -/
theorem inTypePosition_iff {before after : List MarkedLexeme} :
    inTypePosition before after = true ↔ TypePosition (plain before).reverse (plain after) := by
  rw [inTypePosition.eq_def, Bool.or_eq_true, afterTypeWord_iff]
  constructor
  · rintro (⟨pre, p, hbefore, hp⟩ | h)
    · exact .word hbefore hp
    rcases after with - | ⟨next, more⟩
    · cases h
    have hafter {k : TokenKind} {ks : List TokenKind} (hk : next.kind = k)
        (hks : ks <+: kinds (plain more)) : k :: ks <+: kinds (plain (next :: more)) :=
      cons_prefix_kinds_iff.2 ⟨next, more, rfl, hk, hks⟩
    dsimp only at h
    split at h
    · next hkind =>
      rw [Bool.or_eq_true, Bool.and_eq_true] at h
      simp only [startsWithKind_iff, List.mem_cons, List.not_mem_nil, or_false, exists_eq_left] at h
      rcases h with h | ⟨h, k, hk, hmore⟩
      · exact .firstArgument (suffix_kinds_reverse_iff.2 h) (.inl rfl) (hafter hkind (by simp))
      · exact .lastArgument (suffix_kinds_reverse_iff.2 h) hk (hafter hkind hmore)
    · next hkind =>
      simp only [startsWithKind_iff, List.mem_singleton, exists_eq_left] at h
      exact .firstArgument (suffix_kinds_reverse_iff.2 h) (.inr rfl) (hafter hkind (by simp))
    · next hkind => exact .declared rfl ⟨hkind, by simpa using h⟩
    · next hkind => exact .spread (.inl rfl) (hafter hkind (by simp))
    · next hkind => exact .spread (.inr rfl) (hafter hkind (by simp))
    · next hkind =>
      simp only [startsWithKind_iff, List.mem_singleton, exists_eq_left] at h
      exact .array (hafter hkind h)
    · next hkind =>
      simp only [startsWithKind_iff, List.mem_singleton, exists_eq_left] at h
      exact .literal (hafter hkind h)
    · next hkind =>
      rw [Bool.or_eq_true, Bool.and_eq_true] at h
      simp only [startsWithKind_iff, List.mem_cons, List.not_mem_nil, or_false, exists_eq_left] at h
      rcases h with ⟨k, hk, hmore⟩ | ⟨hname, k, hk, hmore⟩
      · exact .diamond hk (hafter hkind hmore)
      · obtain ⟨m, more, rfl, hm, -⟩ := cons_prefix_kinds_iff.1 hname
        exact .generic hk (hafter hkind (cons_prefix_kinds_iff.2 ⟨m, more, rfl, hm, hmore⟩))
    · cases h
  · rintro (⟨hbefore, hp⟩ | ⟨hbefore, hk, hafter⟩ | ⟨hbefore, hk, hafter⟩ | ⟨hafter, hnext⟩ |
      ⟨hk, hafter⟩ | hafter | hafter | ⟨hk, hafter⟩ | ⟨hk, hafter⟩)
    · exact .inl ⟨_, _, hbefore, hp⟩
    · rw [suffix_kinds_reverse_iff] at hbefore
      obtain ⟨next, more, rfl, rfl, -⟩ := cons_prefix_kinds_iff.1 hafter
      rcases hk with hk | hk <;> simp [hk, startsWithKind_iff, hbefore]
    · rw [suffix_kinds_reverse_iff] at hbefore
      obtain ⟨next, more, rfl, hnext, hmore⟩ := cons_prefix_kinds_iff.1 hafter
      rcases hk with rfl | rfl | rfl <;> simp [hnext, startsWithKind_iff, hbefore, hmore]
    · obtain ⟨next, more, rfl, rfl, -⟩ := List.map_eq_cons_iff.1 hafter
      simp [hnext]
    · obtain ⟨next, more, rfl, rfl, -⟩ := cons_prefix_kinds_iff.1 hafter
      rcases hk with hk | hk <;> simp [hk]
    · obtain ⟨next, more, rfl, hnext, hmore⟩ := cons_prefix_kinds_iff.1 hafter
      simp [hnext, startsWithKind_iff, hmore]
    · obtain ⟨next, more, rfl, hnext, hmore⟩ := cons_prefix_kinds_iff.1 hafter
      simp [hnext, startsWithKind_iff, hmore]
    · obtain ⟨next, more, rfl, hnext, hmore⟩ := cons_prefix_kinds_iff.1 hafter
      rcases hk with rfl | rfl <;> simp [hnext, startsWithKind_iff, hmore]
    · obtain ⟨next, more, rfl, hnext, hmore⟩ := cons_prefix_kinds_iff.1 hafter
      obtain ⟨name, more, rfl, hname, hmore⟩ := cons_prefix_kinds_iff.1 hmore
      have hfirst : [TokenKind.identifier] <+: kinds (name.toLexeme :: plain more) := by
        simp [kinds, hname]
      rcases hk with rfl | rfl | rfl <;> simp [hnext, startsWithKind_iff, hfirst, hmore]

/-! ### The chain at a lexeme -/

/-- The chain that is read is the longest one. -/
theorem members_chainTail (ms : List MarkedLexeme) :
    ∃ members after, plain ms = members ++ after ∧ Members members (chainTail ms) ∧ ¬ GoesOn after ∧
      after = plain (ms.drop (2 * (chainTail ms).length)) := by
  fun_induction chainTail ms with
  | case1 d s rest h ih =>
    obtain ⟨members, after, hrest, hmembers, hmaximal, hafter⟩ := ih
    refine ⟨d.toLexeme :: s.toLexeme :: members, after, ?_, .cons h.1 h.2 hmembers, hmaximal, ?_⟩
    · simp [hrest]
    · rw [hafter, List.length_cons, Nat.mul_succ]
      rfl
  | case2 d s rest h =>
    refine ⟨[], _, rfl, .nil, ?_, rfl⟩
    simpa [GoesOn, kinds, List.cons_prefix_cons, eq_comm] using h
  | case3 ms h =>
    refine ⟨[], _, rfl, .nil, ?_, rfl⟩
    rintro hgoes
    obtain ⟨d, rest, rfl, -, hrest⟩ := cons_prefix_kinds_iff.1 hgoes
    obtain ⟨s, rest, rfl, -, -⟩ := cons_prefix_kinds_iff.1 hrest
    exact h d s rest rfl

/-- There is one longest chain. -/
theorem Members.unique {members members' after after' : List Lexeme} {names names' : List String}
    (h : Members members names) (h' : Members members' names')
    (heq : members ++ after = members' ++ after') (hmaximal : ¬ GoesOn after)
    (hmaximal' : ¬ GoesOn after') : names = names' ∧ after = after' := by
  induction h generalizing members' names' with
  | nil =>
    cases h' with
    | nil => exact ⟨rfl, heq⟩
    | cons hdot hname _ =>
      -- the chain that stops here could go on
      subst heq
      exact absurd (by simp [GoesOn, kinds, hdot, hname]) hmaximal
  | cons hdot hname _ ih =>
    cases h' with
    | nil =>
      subst heq
      exact absurd (by simp [GoesOn, kinds, hdot, hname]) hmaximal'
    | cons hdot' hname' h' =>
      simp only [List.cons_append, List.cons.injEq] at heq
      obtain ⟨rfl, rfl, heq⟩ := heq
      obtain ⟨rfl, rfl⟩ := ih h' heq
      exact ⟨rfl, rfl⟩

/-- A lexeme heads one chain at most, with one end. -/
theorem HeadsChain.unique {before rest after after' : List Lexeme} {l : Lexeme}
    {segments segments' : List String} (h : HeadsChain before l rest segments after)
    (h' : HeadsChain before l rest segments' after') : segments = segments' ∧ after = after' := by
  obtain ⟨-, -, hrest, hmembers, hmaximal⟩ := h
  obtain ⟨-, -, hrest', hmembers', hmaximal'⟩ := h'
  obtain ⟨rfl, rfl⟩ := hmembers.unique hmembers' (hrest.symm.trans hrest') hmaximal hmaximal'
  exact ⟨rfl, rfl⟩

/-- **Where chains begin**: at an identifier that is not behind a dot and no part of a literal. -/
theorem headsChain_iff {before rest : List MarkedLexeme} {l : MarkedLexeme} {segments : List String}
    {after : List Lexeme} :
    HeadsChain (plain before) l.toLexeme (plain rest) segments after ↔
      (l.kind = .identifier ∧ startsWithKind before.reverse [.dot] = false) ∧
        segments = l.text :: chainTail rest ∧
        after = plain (rest.drop (2 * (chainTail rest).length)) := by
  have hdot : startsWithKind before.reverse [.dot] = false ↔
      ¬ [TokenKind.dot] <:+ kinds (plain before) := by
    rw [← Bool.not_eq_true, startsWithKind_iff, ← plain_reverse_reverse before,
      suffix_kinds_reverse_iff]
    simp
  obtain ⟨members, after', hrest, hmembers, hmaximal, hafter⟩ := members_chainTail rest
  rw [hdot, ← hafter]
  constructor
  · rintro ⟨hhead, hnodot, hrest', hmembers', hmaximal'⟩
    obtain ⟨rfl, rfl⟩ := hmembers'.unique hmembers (hrest'.symm.trans hrest) hmaximal' hmaximal
    exact ⟨⟨hhead, hnodot⟩, rfl, rfl⟩
  · rintro ⟨⟨hhead, hnodot⟩, rfl, rfl⟩
    exact .intro hhead hnodot hrest hmembers hmaximal

/-! ### What a chain comes to -/

section

variable {head : String} {tail : List String} {before after : List MarkedLexeme} {r : Reference}

/-- The first segment that is capitalised is found behind all those that are not. -/
theorem takeWhile_append_capitalized {packages members : List String} {type : String}
    (hpackages : ∀ s ∈ packages, isCapitalized s = false) (htype : isCapitalized type = true) :
    (packages ++ type :: members).takeWhile (!isCapitalized ·) = packages := by
  rw [List.takeWhile_append_of_pos fun s hs ↦ by simp [hpackages s hs],
    List.takeWhile_cons_of_neg (by simp [htype]), List.append_nil]

/-- A chain that is read as a reference refers to what its segments say. -/
theorem refersTo_of_chainReference? (h : chainReference? head tail before after = some r) :
    RefersTo (inTypePosition before after = true) (head :: tail) r := by
  rw [chainReference?] at h
  split at h
  · next hhead =>
    split at h
    · next hshown =>
      cases h
      exact .simple hhead (by simpa using hshown)
    · cases h
  split at h
  · cases h
  next hself =>
  rcases hfind : (head :: tail).find? isCapitalized with - | type
  · -- no segment is capitalised, so all of them are packages
    have hall : (head :: tail).takeWhile (!isCapitalized ·) = head :: tail :=
      List.takeWhile_eq_self_iff.2 fun s hs ↦ by simpa using List.find?_eq_none.1 hfind s hs
    simp [hall] at h
  · obtain ⟨htype, packages, members, hsegments, hpackages⟩ :=
      List.find?_eq_some_iff_append.1 hfind
    have hpackages : ∀ s ∈ packages, isCapitalized s = false := by simpa using hpackages
    have hhead : ∀ first ∈ packages.head?, first ∉ selfWords := by
      intro first hfirst
      obtain ⟨packages, rfl⟩ := List.head?_eq_some_iff.1 hfirst
      obtain ⟨rfl, -⟩ := List.cons.inj hsegments
      simpa using hself
    rw [hsegments] at h ⊢
    dsimp only at h
    rw [takeWhile_append_capitalized hpackages htype, List.drop_left] at h
    dsimp only at h
    split at h
    · next hcond =>
      cases h
      simp only [Bool.and_eq_true, decide_eq_true_eq] at hcond
      exact .qualified hhead hpackages hcond.1 htype (by simpa [or_assoc] using hcond.2)
    · cases h

/-- **A chain is read as what it refers to.** -/
theorem chainReference?_eq_some_iff :
    chainReference? head tail before after = some r ↔
      RefersTo (inTypePosition before after = true) (head :: tail) r := by
  refine ⟨refersTo_of_chainReference?, fun h ↦ ?_⟩
  generalize hsegments : head :: tail = segments at h
  cases h with
  | simple hname hshown =>
    obtain ⟨rfl, -⟩ := List.cons.inj hsegments
    rw [chainReference?, if_pos hname, if_pos (by simpa using hshown)]
  | @qualified packages type members hself hpackages hlength htype hshown =>
    obtain ⟨first, more, rfl⟩ := List.exists_cons_of_length_pos (Nat.zero_lt_of_lt hlength)
    obtain rfl : head = first := (List.cons.inj hsegments).1
    have hhead : isCapitalized head = false := hpackages head List.mem_cons_self
    rw [chainReference?, if_neg (by simp [hhead]), if_neg (by simpa using hself head rfl)]
    dsimp only
    rw [hsegments, takeWhile_append_capitalized hpackages htype, List.drop_left]
    dsimp only
    rw [if_pos]
    rw [Bool.and_eq_true]
    exact ⟨decide_eq_true hlength, by simpa [or_assoc] using hshown⟩

end

/-! ### Lexeme by lexeme -/

/-- The reference that a lexeme makes, between what stands before it and what follows. -/
def referenceOf? (before : List MarkedLexeme) (l : MarkedLexeme) (rest : List MarkedLexeme) :
    Option Reference :=
  if l.claimed then none
  else if l.kind = .identifier ∧ !startsWithKind before [.dot] then
    chainReference? l.text (chainTail rest) before (rest.drop (2 * (chainTail rest).length))
  else if l.kind = .stringLiteral then literalReference? l.text before
  else none

/-- The reference that the lexeme at a position makes. -/
def referenceAt? (ms : List MarkedLexeme) (position : Nat) : Option Reference :=
  ms[position]?.bind fun l ↦ referenceOf? (ms.take position).reverse l (ms.drop (position + 1))

/-- The references that the lexemes ahead make, each by itself. -/
def referencesOfEach (before : List MarkedLexeme) : List MarkedLexeme → List Reference
  | [] => []
  | l :: rest => (referenceOf? before l rest).toList ++ referencesOfEach (l :: before) rest

/-- **Within a chain, after its head, nothing makes a reference.** -/
theorem referencesOfEach_members (before rest : List MarkedLexeme) :
    referencesOfEach before rest =
      referencesOfEach ((rest.take (2 * (chainTail rest).length)).reverse ++ before)
        (rest.drop (2 * (chainTail rest).length)) := by
  fun_induction chainTail rest generalizing before with
  | case1 d s rest h ih =>
    obtain ⟨hdot, hname⟩ := h
    -- a dot heads no chain, and neither does the name behind it
    have hd : referenceOf? before d (s :: rest) = none := by simp [referenceOf?, hdot]
    have hs : referenceOf? (d :: before) s rest = none := by
      simp [referenceOf?, hname, startsWithKind, hdot]
    rw [List.length_cons, Nat.mul_succ, List.drop_succ_cons, List.drop_succ_cons,
      List.take_succ_cons, List.take_succ_cons, List.reverse_cons, List.reverse_cons]
    simp only [List.append_assoc, List.singleton_append]
    rw [← ih, referencesOfEach, referencesOfEach, hd, hs]
    rfl
  | case2 d s rest h => rfl
  | case3 ms h => rfl

/-- **Taking chains whole comes to the same as looking at each lexeme.** -/
theorem referencesFrom_eq_referencesOfEach (before ms : List MarkedLexeme) :
    referencesFrom before ms = referencesOfEach before ms := by
  fun_induction referencesFrom before ms with
  | case1 before => rfl
  | case2 before l rest hclaimed ih =>
    rw [ih, referencesOfEach, referenceOf?, if_pos hclaimed]
    rfl
  | case3 before l rest hclaimed hchain tail after ih =>
    rw [ih, referencesOfEach, referenceOf?, if_neg hclaimed, if_pos hchain,
      referencesOfEach_members (l :: before) rest]
  | case4 before l rest hclaimed hchain hliteral ih =>
    rw [ih, referencesOfEach, referenceOf?, if_neg hclaimed, if_neg hchain, if_pos hliteral]
  | case5 before l rest hclaimed hchain hliteral ih =>
    rw [ih, referencesOfEach, referenceOf?, if_neg hclaimed, if_neg hchain, if_neg hliteral]
    rfl

/-- **No lexeme is left out, and none is looked at twice**: the references are those that the
lexemes make at each position, in order. -/
theorem referencesFrom_eq_filterMap (ms : List MarkedLexeme) :
    referencesFrom [] ms = (List.range ms.length).filterMap (referenceAt? ms) := by
  have hahead (pre ms : List MarkedLexeme) : referencesOfEach pre.reverse ms =
      (List.range' pre.length ms.length).filterMap (referenceAt? (pre ++ ms)) := by
    induction ms generalizing pre with
    | nil => rfl
    | cons l rest ih =>
      have hl : referenceAt? (pre ++ l :: rest) pre.length = referenceOf? pre.reverse l rest := by
        simp [referenceAt?]
      have hrest : referencesOfEach (l :: pre.reverse) rest = (List.range' (pre.length + 1)
          rest.length).filterMap (referenceAt? (pre ++ l :: rest)) := by
        simpa using ih (pre ++ [l])
      rw [referencesOfEach, List.length_cons, List.range'_succ, List.filterMap_cons, hl, hrest]
      cases referenceOf? pre.reverse l rest <;> rfl
  rw [referencesFrom_eq_referencesOfEach, List.range_eq_range']
  exact hahead [] ms

/-- **The references are those of the single lexemes**, so that the jumps over chains lose none. -/
theorem mem_referencesFrom_iff {ms : List MarkedLexeme} {r : Reference} :
    r ∈ referencesFrom [] ms ↔
      ∃ before l rest, ms = before ++ l :: rest ∧ referenceOf? before.reverse l rest = some r := by
  have hahead (before ms : List MarkedLexeme) : r ∈ referencesOfEach before ms ↔
      ∃ pre l rest, ms = pre ++ l :: rest ∧
        referenceOf? (pre.reverse ++ before) l rest = some r := by
    induction ms generalizing before with
    | nil => simp [referencesOfEach]
    | cons l rest ih =>
      rw [referencesOfEach, List.mem_append, Option.mem_toList, ih, exists_split_cons]
      simp
  rw [referencesFrom_eq_referencesOfEach, hahead]
  simp

/-! ### References by the rules -/

section

variable {before rest : List MarkedLexeme} {l : MarkedLexeme}

/-- A literal refers to a class by name alone. -/
theorem literalReference?_eq_some {literal : String} {r : Reference}
    (h : literalReference? literal before = some r) : ∃ c, r = .reflective c := by
  rw [literalReference?.eq_def] at h
  split at h
  · split at h
    · obtain ⟨c, -, rfl⟩ := Option.map_eq_some_iff.1 h
      exact ⟨c, rfl⟩
    · cases h
  · cases h

/-- **When a lexeme makes a reference**, other than one in a literal: it is not claimed, and heads a
chain that refers to something. -/
theorem referenceOf?_eq_some_iff {r : Reference} (hr : ∀ c, r ≠ .reflective c) :
    referenceOf? before.reverse l rest = some r ↔
      l.claimed = false ∧ ∃ segments after,
        HeadsChain (plain before) l.toLexeme (plain rest) segments after ∧
        RefersTo (TypePosition (plain before) after) segments r := by
  rw [referenceOf?]
  by_cases hclaimed : l.claimed = true
  · simp [hclaimed]
  have hunclaimed : l.claimed = false := by simpa using hclaimed
  rw [if_neg hclaimed, and_iff_right hunclaimed]
  simp only [headsChain_iff]
  by_cases hhead : l.kind = .identifier ∧ !startsWithKind before.reverse [.dot]
  · rw [if_pos hhead, chainReference?_eq_some_iff, inTypePosition_iff, plain_reverse_reverse]
    have hheads : l.kind = .identifier ∧ startsWithKind before.reverse [.dot] = false := by
      simpa using hhead
    constructor
    · intro h
      exact ⟨_, _, ⟨hheads, rfl, rfl⟩, h⟩
    · rintro ⟨_, _, ⟨-, rfl, rfl⟩, h⟩
      exact h
  · rw [if_neg hhead]
    refine iff_of_false (fun h ↦ ?_) ?_
    · split at h
      · obtain ⟨c, rfl⟩ := literalReference?_eq_some h
        exact hr c rfl
      · cases h
    · rintro ⟨_, _, ⟨hheads, -, -⟩, -⟩
      exact hhead (by simpa using hheads)

end

/-! ### Marks -/

theorem plain_mapIdx (ls : List Lexeme) (claimed : Nat → Bool) :
    plain (ls.mapIdx fun i l ↦ ⟨l, claimed i⟩) = ls := by
  refine List.ext_getElem? fun i ↦ ?_
  rw [plain, List.getElem?_map, List.getElem?_mapIdx, Option.map_map]
  exact Option.map_id'

/-- The marks of an outline tell which positions it claims. -/
theorem Outline.exists_mark_iff {o : Outline} {ls : List Lexeme}
    {P : List Lexeme → Lexeme → Bool → List Lexeme → Prop} :
    (∃ before l rest, o.mark ls = before ++ l :: rest ∧
      P (plain before) l.toLexeme l.claimed (plain rest)) ↔
      ∃ before l rest, ls = before ++ l :: rest ∧
        P before l (o.claimed.contains before.length) rest := by
  constructor
  · rintro ⟨before, l, rest, hmark, hP⟩
    have hclaimed : l.claimed = o.claimed.contains before.length := by
      have hget : (o.mark ls)[before.length]? = some l := by simp [hmark]
      rw [mark, List.getElem?_mapIdx] at hget
      obtain ⟨_, -, rfl⟩ := Option.map_eq_some_iff.1 hget
      rfl
    refine ⟨plain before, l.toLexeme, plain rest, ?_, ?_⟩
    · rw [← plain_cons, ← plain_append, ← hmark, mark, plain_mapIdx]
    · rwa [plain, List.length_map, ← hclaimed]
  · rintro ⟨before, l, rest, rfl, hP⟩
    have hmark : o.mark (before ++ l :: rest) =
        o.mark before ++ ⟨l, o.claimed.contains before.length⟩ ::
          rest.mapIdx fun i l ↦ ⟨l, o.claimed.contains (i + 1 + before.length)⟩ := by
      rw [mark, List.mapIdx_append, List.mapIdx_cons, Nat.zero_add]
      rfl
    refine ⟨_, _, _, hmark, ?_⟩
    rw [mark, plain_mapIdx, plain_mapIdx _ fun i ↦ o.claimed.contains (i + 1 + before.length)]
    exact hP

/-- What is known of a value behind a result is known of the result. -/
theorem exists_eq_ok_of_map {α β ε : Type} {result : Except ε α} (f : α → β) {b : β}
    (h : result.map f = .ok b) : ∃ a, result = .ok a ∧ f a = b := by
  rcases result with e | a
  · cases h
  · exact ⟨a, rfl, Except.ok.inj h⟩

/-- **What an accepted source comes to**: its outline, and the references under it. -/
theorem exists_outline_of_scan {source : String} {facts : Facts} (h : scan source = .ok facts) :
    ∃ o, outline (tokens source) = .ok o ∧
      facts = o.facts (referencesFrom [] (o.mark (tokens source))) := by
  rw [scan, lexemes_eq] at h
  rcases hclosed : firstUnclosed? source with - | e <;> rw [hclosed] at h
  · rcases houtline : outline (tokens source) with e | o
    · simp [scanLexemes, houtline, bind, Except.bind, Except.map] at h
    · refine ⟨o, rfl, ?_⟩
      simpa [scanLexemes, houtline, bind, Except.bind, Except.map, eq_comm] using h
  · cases h

/-! ### The facts of a source -/

namespace Outline

variable {o : Outline} {references : List Reference} {name : String}

/-- A simple name is kept if something refers to it and the outline does not explain it. -/
theorem mem_simpleNames_facts :
    name ∈ (o.facts references).simpleNames ↔
      .simple name ∈ references ∧ o.explains name = false := by
  have hsimple {r : Reference} : r.simple? = some name ↔ r = .simple name := by
    cases r <;> simp [Reference.simple?]
  show name ∈ SortedSet.filter _ _ ↔ _
  rw [SortedSet.mem_filter, SortedSet.mem_ofList, List.mem_filterMap, Bool.not_eq_true']
  simp only [hsimple, exists_eq_right]

/-- The qualified references of a unit are those among all its references. -/
theorem mem_qualifiedReferences_facts :
    name ∈ (o.facts references).qualifiedReferences ↔ .qualified name ∈ references := by
  have hqualified {r : Reference} : r.qualified? = some name ↔ r = .qualified name := by
    cases r <;> simp [Reference.qualified?]
  show name ∈ SortedSet.ofList _ ↔ _
  rw [SortedSet.mem_ofList, List.mem_filterMap]
  simp only [hqualified, exists_eq_right]

/-- The facts have a name as reflective just if some reference is by a string literal with it. -/
theorem mem_reflectiveReferences_facts :
    name ∈ (o.facts references).reflectiveReferences ↔ .reflective name ∈ references := by
  have hreflective {r : Reference} : r.reflective? = some name ↔ r = .reflective name := by
    cases r <;> simp [Reference.reflective?]
  show name ∈ SortedSet.ofList _ ↔ _
  rw [SortedSet.mem_ofList, List.mem_filterMap]
  simp only [hreflective, exists_eq_right]

end Outline

/-- Whether a chain with these segments stands in a compilation unit, between `before` and `after`,
and its head is neither part of a statement nor the name of a declaration or of a type parameter. -/
def RefersIn (ls before : List Lexeme) (segments : List String) (after : List Lexeme) : Prop :=
  ∃ l rest, ls = before ++ l :: rest ∧ ¬ Found ls (.claimed before.length) ∧
    HeadsChain before l rest segments after

/-- An outline does not explain a name just if the unit neither declares it nor has it as a type
parameter nor imports it. -/
theorem Outline.explains_eq_false_iff {ls : List Lexeme} {o : Outline} (h : outline ls = .ok o)
    {name : String} :
    o.explains name = false ↔ ¬ Found ls (.declared name) ∧ ¬ Found ls (.parameter name) ∧
      ¬ Found ls (.imported name) := by
  simp only [← outline_has h, Has]
  simp [explains, and_assoc]

section

variable {ls : List Lexeme} {o : Outline}

theorem contains_claimed_eq_false_iff (h : outline ls = .ok o) {position : Nat} :
    o.claimed.contains position = false ↔ ¬ Found ls (.claimed position) := by
  rw [← outline_has h, Outline.Has]
  simp

/-- **The references of a compilation unit**, other than those in literals, are what its chains
refer to. -/
theorem mem_references_iff (h : outline ls = .ok o) {r : Reference} (hr : ∀ c, r ≠ .reflective c) :
    r ∈ referencesFrom [] (o.mark ls) ↔
      ∃ before segments after, RefersIn ls before segments after ∧
        RefersTo (TypePosition before after) segments r := by
  simp only [mem_referencesFrom_iff, referenceOf?_eq_some_iff hr]
  refine (Outline.exists_mark_iff (P := fun before l claimed rest ↦ claimed = false ∧
    ∃ segments after, HeadsChain before l rest segments after ∧
      RefersTo (TypePosition before after) segments r)).trans ?_
  simp only [contains_claimed_eq_false_iff h]
  constructor
  · rintro ⟨before, l, rest, hls, hclaimed, segments, after, hchain, hrefers⟩
    exact ⟨before, segments, after, ⟨l, rest, hls, hclaimed, hchain⟩, hrefers⟩
  · rintro ⟨before, segments, after, ⟨l, rest, hls, hclaimed, hchain⟩, hrefers⟩
    exact ⟨before, l, rest, hls, hclaimed, segments, after, hchain, hrefers⟩

end

section

variable {source : String} {facts : Facts} {name : String}

/-- A simple name is kept if a chain refers to it and the source does not explain it. -/
theorem mem_simpleNames_iff (h : scan source = .ok facts) :
    name ∈ facts.simpleNames ↔
      (¬ Found (tokens source) (.declared name) ∧ ¬ Found (tokens source) (.parameter name) ∧
        ¬ Found (tokens source) (.imported name)) ∧
      ∃ before segments after, RefersIn (tokens source) before segments after ∧
        RefersTo (TypePosition before after) segments (.simple name) := by
  obtain ⟨o, houtline, rfl⟩ := exists_outline_of_scan h
  rw [Outline.mem_simpleNames_facts, Outline.explains_eq_false_iff houtline,
    mem_references_iff houtline (by simp), and_comm]

/-- A qualified name is kept just if a chain refers to it. -/
theorem mem_qualifiedReferences_iff (h : scan source = .ok facts) :
    name ∈ facts.qualifiedReferences ↔
      ∃ before segments after, RefersIn (tokens source) before segments after ∧
        RefersTo (TypePosition before after) segments (.qualified name) := by
  obtain ⟨o, houtline, rfl⟩ := exists_outline_of_scan h
  rw [Outline.mem_qualifiedReferences_facts, mem_references_iff houtline (by simp)]

end

/-- **Which names a source refers to**, read off its tokens. A simple name is kept if it is
capitalised, if the source does not explain it as a type it declares, a type parameter or a name it
imports, and if it heads a chain somewhere that shows it to be a type: by a lower-case letter in it,
or by where the chain stands. A qualified name is kept if it is the part of a chain through the
first capitalised segment, behind two others at least, and that segment is shown to be a type: by a
lower-case letter in it, by a segment that follows, or by where the chain stands. The jumps over
chains do not matter, since the references are those of the single lexemes. -/
theorem scan_references_iff {source : String} {facts : Facts} (h : scan source = .ok facts) :
    (∀ name, name ∈ facts.simpleNames ↔
      ¬ Found (tokens source) (.declared name) ∧ ¬ Found (tokens source) (.parameter name) ∧
      ¬ Found (tokens source) (.imported name) ∧
      ∃ before segments after, RefersIn (tokens source) before segments after ∧
        RefersTo (TypePosition before after) segments (.simple name)) ∧
    (∀ q, q ∈ facts.qualifiedReferences ↔
      ∃ before segments after, RefersIn (tokens source) before segments after ∧
        RefersTo (TypePosition before after) segments (.qualified q)) ∧
    ∃ o, outline (tokens source) = .ok o ∧
      facts = o.facts (referencesFrom [] (o.mark (tokens source))) ∧
      referencesFrom [] (o.mark (tokens source)) =
        (List.range (tokens source).length).filterMap (referenceAt? (o.mark (tokens source))) := by
  obtain ⟨o, houtline, hfacts⟩ := exists_outline_of_scan h
  have hlength : (o.mark (tokens source)).length = (tokens source).length := List.length_mapIdx
  refine ⟨fun name ↦ ?_, fun q ↦ mem_qualifiedReferences_iff h, o, houtline, hfacts,
    hlength ▸ referencesFrom_eq_filterMap _⟩
  rw [mem_simpleNames_iff h, and_assoc, and_assoc]

/-- A source with a type that only its place shows, one that a member shows, and two constants. -/
def shouting : String := "class A { DAO d = com.acme.API.call(LIMIT, conf.SIZE); }"

/-- The two types of such a source, and what shows the one without members. -/
theorem scan_references_iff_of_shouting :
    ∃ facts, scan shouting = .ok facts ∧ facts.simpleNames.toList = ["DAO"] ∧
      facts.qualifiedReferences.toList = ["com.acme.API"] ∧
      ∃ before members after, RefersIn (tokens shouting) before ("DAO" :: members) after ∧
        TypePosition before after := by
  have hnames : (scan shouting).map (fun facts ↦
      (facts.simpleNames.toList, facts.qualifiedReferences.toList)) =
        .ok (["DAO"], ["com.acme.API"]) := by decide +kernel
  rcases h : scan shouting with e | facts <;> rw [h] at hnames
  · cases hnames
  · obtain ⟨hsimple, hqualified⟩ := Prod.mk.inj (Except.ok.inj hnames)
    have hmem : "DAO" ∈ facts.simpleNames := by
      rw [SortedSet.mem_iff, hsimple]
      exact List.mem_singleton_self _
    obtain ⟨-, -, -, before, segments, after, hchain, hrefers⟩ :=
      ((scan_references_iff h).1 "DAO").1 hmem
    cases hrefers with
    | simple _ hshown =>
      have hplace := hshown.resolve_left (by decide)
      exact ⟨facts, rfl, hsimple, hqualified, before, _, after, hchain, hplace⟩

end JavaDeps.Java
