import JavaDeps.Proofs.Java.Chains
import JavaDeps.Proofs.Java.StatementSpans

/-!
# Types in lists

After `implements` and `throws`, and between the brackets of `new T<A, B>()`, stand names that
commas separate, and all of them are types (`TypeListPlace`). **Only the first one stands where the
lexemes around it say so** (`typePosition_iff`): a name behind a comma is not told from an argument
of a call. So a later name is found by a lower-case letter in it, or not at all unless another chain
refers to it (`mem_simpleNames_iff_of_listed`).
-/

namespace JavaDeps.Java

/-! ### Lists of names -/

/-- Names that commas separate: a single one, or a name with a comma and a further list of names
behind it. -/
inductive NameList : List Lexeme → List String → Prop
  | single {l : Lexeme} (hname : l.kind = .identifier) : NameList [l] [l.text]
  | cons {l comma : Lexeme} {ls : List Lexeme} {names : List String} (hname : l.kind = .identifier)
    (hcomma : comma.kind = .comma) (h : NameList ls names) :
    NameList (l :: comma :: ls) (l.text :: names)

/-- Words that a list of types follows. -/
def listWords : List String := ["implements", "throws"]

/-- **Where a list of types stands**: in the head of a declaration, in front of its body, or between
the brackets behind a type that is created. -/
inductive TypeListPlace (before after : List Lexeme) : Prop
  | clause {pre : List Lexeme} {word : Lexeme} (hbefore : before = pre ++ [word])
    (hword : word.kind = .identifier ∧ word.text ∈ listWords)
    (hafter : [TokenKind.openBrace] <+: kinds after)
  | arguments {pre : List Lexeme} {word type bracket : Lexeme}
    (hbefore : before = pre ++ [word, type, bracket])
    (hword : word.kind = .identifier ∧ word.text = "new")
    (htype : type.kind = .identifier ∧ isCapitalized type.text = true)
    (hbracket : bracket.kind = .less) (hafter : [TokenKind.greater, .openParen] <+: kinds after)

/-- A name in a list, with the lexemes of the list on both sides of it. -/
structure ListedAt (front : List Lexeme) (l : Lexeme) (back : List Lexeme) (earlier : List String) :
    Prop where
  isName : l.kind = .identifier
  position : front.length = 2 * earlier.length
  behind : earlier ≠ [] → [TokenKind.comma] <:+ kinds front
  ahead : back = [] ∨ [TokenKind.comma] <+: kinds back

/-- Every name of a list stands in it at some place, with the earlier names before it. -/
theorem NameList.exists_listedAt {list : List Lexeme} {earlier later : List String} {name : String}
    (h : NameList list (earlier ++ name :: later)) :
    ∃ front l back, list = front ++ l :: back ∧ l.text = name ∧ ListedAt front l back earlier := by
  generalize hnames : earlier ++ name :: later = names at h
  induction h generalizing earlier with
  | @single l hname =>
    rcases earlier with - | ⟨first, earlier⟩
    · obtain ⟨rfl, -⟩ := List.cons.inj hnames
      exact ⟨[], l, [], rfl, rfl, hname, rfl, nofun, .inl rfl⟩
    · simp at hnames
  | @cons l comma ls names hname hcomma h ih =>
    rcases earlier with - | ⟨first, earlier⟩
    · obtain ⟨rfl, -⟩ := List.cons.inj hnames
      exact ⟨[], l, comma :: ls, rfl, rfl, hname, rfl, nofun, .inr (by simp [kinds, hcomma])⟩
    · obtain ⟨-, hnames⟩ := List.cons.inj hnames
      obtain ⟨front, x, back, rfl, hx, hlisted⟩ := ih hnames
      refine ⟨l :: comma :: front, x, back, rfl, hx, hlisted.isName, ?_, fun _ ↦ ?_, hlisted.ahead⟩
      · simp only [List.length_cons, hlisted.position]
        omega
      · rcases List.eq_nil_or_concat front with rfl | ⟨front, y, rfl⟩
        · exact ⟨[l.kind], by simp [kinds, hcomma]⟩
        · have hearlier : earlier ≠ [] := by
            rintro rfl
            simpa using hlisted.position
          obtain ⟨ks, hks⟩ := hlisted.behind hearlier
          exact ⟨l.kind :: comma.kind :: ks, by simp [kinds] at hks ⊢; simp [hks]⟩

/-! ### The place of a name in a list -/

theorem kinds_append (ls more : List Lexeme) : kinds (ls ++ more) = kinds ls ++ kinds more :=
  List.map_append

theorem suffix_kinds_concat {pre : List Lexeme} {p : Lexeme} {k : TokenKind} (h : p.kind = k) :
    [k] <:+ kinds (pre ++ [p]) := by
  rw [kinds_append, ← h]
  exact List.suffix_append _ _

theorem last_unique {k k' : TokenKind} {ks : List TokenKind} (h : [k] <:+ ks) (h' : [k'] <:+ ks) :
    k = k' := by
  obtain ⟨ks, rfl⟩ := h
  simpa using List.singleton_suffix_iff_getLast?_eq_some.1 h'

/-- A name in a list is the first one, or follows a comma. -/
theorem ListedAt.first_or {before front back : List Lexeme} {l : Lexeme} {earlier : List String}
    (h : ListedAt front l back earlier) : earlier = [] ∧ front = [] ∨
      earlier ≠ [] ∧ [TokenKind.comma] <:+ kinds (before ++ front) := by
  by_cases hearlier : earlier = []
  · have hlength := h.position
    rw [hearlier] at hlength
    exact .inl ⟨hearlier, List.eq_nil_of_length_eq_zero hlength⟩
  · rw [kinds_append]
    exact .inr ⟨hearlier, (h.behind hearlier).trans (List.suffix_append _ _)⟩

/-- What follows a name in a list: a comma, or what ends the list, which is a brace or the bracket
of a call. -/
inductive Follows : List TokenKind → Prop
  | comma {ks : List TokenKind} : Follows (.comma :: ks)
  | openBrace {ks : List TokenKind} : Follows (.openBrace :: ks)
  | closed {ks : List TokenKind} : Follows (.greater :: .openParen :: ks)

theorem Follows.first {k : TokenKind} {ks : List TokenKind} (h : Follows (k :: ks)) :
    k = .comma ∨ k = .openBrace ∨ k = .greater := by
  cases h <;> simp

/-- Behind a comma, only what follows could show the place of a type. -/
theorem Follows.not_typePosition {ls rest : List Lexeme} (h : Follows (kinds rest))
    (hcomma : [TokenKind.comma] <:+ kinds ls) : ¬ TypePosition ls rest := by
  generalize hks : kinds rest = ks at h
  rintro (⟨rfl, hp, -⟩ | ⟨hless, -⟩ | ⟨-, hk, hafter⟩ | ⟨rfl, hname, -⟩ | ⟨hk, hafter⟩ | hafter |
    hafter | ⟨-, hafter⟩ | ⟨-, hafter⟩)
  · cases last_unique hcomma (suffix_kinds_concat hp)
  · cases last_unique hcomma hless
  · rw [hks] at hafter
    cases h <;> simp [List.cons_prefix_cons] at hafter
    rw [hafter] at hk
    simp at hk
  · rw [kinds, List.map_cons, hname] at hks
    subst hks
    cases h
  · rw [hks] at hafter
    rcases hk with rfl | rfl <;> cases h <;> simp [List.cons_prefix_cons] at hafter
  all_goals
    rw [hks] at hafter
    cases h <;> simp [List.cons_prefix_cons] at hafter

namespace TypeListPlace

variable {before after front back : List Lexeme} {l : Lexeme} {earlier : List String}

/-- A list follows one of the words that types follow, or an opening bracket. -/
theorem behind (h : TypeListPlace before after) :
    (∃ pre word, before = pre ++ [word] ∧ word.kind = .identifier ∧ word.text ∈ typeWords) ∨
      [TokenKind.less] <:+ kinds before ∧ [TokenKind.greater, .openParen] <+: kinds after := by
  cases h with
  | clause hbefore hword _ =>
    have hsubset : listWords ⊆ typeWords := by decide
    exact .inl ⟨_, _, hbefore, hword.1, hsubset hword.2⟩
  | @arguments pre word type bracket hbefore _ _ hbracket hafter =>
    obtain rfl : before = (pre ++ [word, type]) ++ [bracket] := by simp [hbefore]
    exact .inr ⟨suffix_kinds_concat hbracket, hafter⟩

/-- In a place for a list, what follows a name there is a comma or the end of the list. -/
theorem follows (h : TypeListPlace before after) (hlisted : ListedAt front l back earlier) :
    Follows (kinds (back ++ after)) := by
  rcases hlisted.ahead with rfl | ⟨ks, hks⟩
  · cases h with
    | clause _ _ hafter =>
      obtain ⟨ks, hks⟩ := hafter
      exact hks ▸ .openBrace
    | arguments _ _ _ _ hafter =>
      obtain ⟨ks, hks⟩ := hafter
      exact hks ▸ .closed
  · rw [kinds_append, ← hks]
    exact .comma

/-- The first name of a list stands in the place of a type. -/
theorem typePosition_first (h : TypeListPlace before after)
    (hahead : back = [] ∨ [TokenKind.comma] <+: kinds back) :
    TypePosition before (back ++ after) := by
  rcases h.behind with ⟨pre, word, rfl, hword⟩ | ⟨hless, hafter⟩
  · exact .word rfl hword
  · rcases hahead with rfl | hcomma
    · have hclose : [TokenKind.greater] <+: [TokenKind.greater, .openParen] := by simp
      exact .firstArgument hless (.inl rfl) (hclose.trans hafter)
    · refine .firstArgument hless (.inr rfl) (hcomma.trans ?_)
      rw [kinds_append]
      exact List.prefix_append _ _

/-- **Only the first name of a list stands in the place of a type.** -/
theorem typePosition_iff (h : TypeListPlace before after)
    (hlisted : ListedAt front l back earlier) :
    TypePosition (before ++ front) (back ++ after) ↔ earlier = [] := by
  rcases hlisted.first_or with ⟨rfl, rfl⟩ | ⟨hearlier, hcomma⟩
  · rw [List.append_nil]
    exact iff_of_true (h.typePosition_first hlisted.ahead) rfl
  · exact iff_of_false ((h.follows hlisted).not_typePosition hcomma) hearlier

/-- A name in a list is a chain of its own. -/
theorem headsChain (h : TypeListPlace before after) (hlisted : ListedAt front l back earlier) :
    HeadsChain (before ++ front) l (back ++ after) [l.text] (back ++ after) := by
  refine .intro hlisted.isName (fun hdot ↦ ?_) rfl .nil fun hgoes ↦ ?_
  · rcases hlisted.first_or with ⟨-, rfl⟩ | ⟨-, hcomma⟩
    · rw [List.append_nil] at hdot
      rcases h.behind with ⟨pre, word, rfl, hword, -⟩ | ⟨hless, -⟩
      · cases last_unique hdot (suffix_kinds_concat hword)
      · cases last_unique hdot hless
    · cases last_unique hdot hcomma
  · have hfollows := h.follows hlisted
    rw [GoesOn] at hgoes
    generalize kinds (back ++ after) = ks at hfollows hgoes
    cases hfollows <;> simp [List.cons_prefix_cons] at hgoes

/-- No statement covers a name in a list. -/
theorem not_covered (h : TypeListPlace before after)
    (hlisted : ListedAt front l back earlier) : ¬ Covered (before ++ front) l (back ++ after) := by
  intro hcovered
  have hfollows := h.follows hlisted
  rcases hrest : back ++ after with - | ⟨m, rest⟩
  · rw [hrest] at hfollows
    cases hfollows
  · rw [hrest] at hfollows hcovered
    -- the statement would go on with what follows the name
    have hkind := (hcovered.succ (by simp [hlisted.isName])).kind_mem
    rcases hfollows.first with hm | hm | hm <;> simp [hm, statementKinds] at hkind

end TypeListPlace

/-! ### Which listed names are found -/

/-- Whether another chain than the one at a position refers to a simple name. -/
def RefersElsewhere (ls : List Lexeme) (position : Nat) (name : String) : Prop :=
  ∃ before segments after, before.length ≠ position ∧ RefersIn ls before segments after ∧
    RefersTo (TypePosition before after) segments (.simple name)

/-- The reference that a listed name makes in its place. -/
theorem refersTo_listed_iff {before after front back : List Lexeme} {l : Lexeme}
    {earlier : List String} (hplace : TypeListPlace before after)
    (hlisted : ListedAt front l back earlier) (hname : isCapitalized l.text = true) :
    RefersTo (TypePosition (before ++ front) (back ++ after)) [l.text] (.simple l.text) ↔
      hasLowercase l.text = true ∨ earlier = [] := by
  rw [hplace.typePosition_iff hlisted]
  constructor
  · intro h
    generalize hsegments : [l.text] = segments at h
    cases h with
    | simple _ hshown => exact hshown
  · exact .simple hname

/-- **Which types in a list are found.** A type that the source does not explain is left out exactly
if it has no lower-case letter, is not the first of its list, and is not referred to anywhere
else. -/
theorem mem_simpleNames_iff_of_listed {source : String} {facts : Facts}
    {before list after : List Lexeme} {earlier later : List String} {name : String}
    (h : scan source = .ok facts) (hsource : tokens source = before ++ (list ++ after))
    (hplace : TypeListPlace before after) (hlist : NameList list (earlier ++ name :: later))
    (hname : isCapitalized name = true) :
    name ∈ facts.simpleNames ↔
      (¬ Found (tokens source) (.declared name) ∧ ¬ Found (tokens source) (.parameter name) ∧
        ¬ Found (tokens source) (.imported name)) ∧
      (hasLowercase name = true ∨ earlier = [] ∨
        RefersElsewhere (tokens source) (before.length + 2 * earlier.length) name) := by
  obtain ⟨front, l, back, rfl, rfl, hlisted⟩ := hlist.exists_listedAt
  have hchain := hplace.headsChain hlisted
  have hsplit : tokens source = (before ++ front) ++ l :: (back ++ after) := by
    rw [hsource]
    simp
  have hlength : (before ++ front).length = before.length + 2 * earlier.length := by
    rw [List.length_append, hlisted.position]
  rw [mem_simpleNames_iff h]
  refine and_congr_right fun ⟨hdeclared, hparameter, _⟩ ↦ ?_
  have hunclaimed : ¬ Found (tokens source) (.claimed (before ++ front).length) := by
    rw [hsplit] at hdeclared hparameter ⊢
    intro hclaimed
    rcases hclaimed.claimed_cases with hcovered | ⟨-, hfound | hfound⟩
    · exact hplace.not_covered hlisted hcovered
    · exact hdeclared hfound
    · exact hparameter hfound
  rw [← or_assoc, ← refersTo_listed_iff hplace hlisted hname, ← hlength]
  constructor
  · rintro ⟨before', segments, after', hrefersIn, hrefers⟩
    by_cases hposition : before'.length = (before ++ front).length
    · -- at the place of the name there is one chain only
      obtain ⟨l', rest', hls, -, hchain'⟩ := hrefersIn
      obtain ⟨rfl, heq⟩ := List.append_inj (hls.symm.trans hsplit) hposition
      obtain ⟨rfl, rfl⟩ := List.cons.inj heq
      obtain ⟨rfl, rfl⟩ := hchain'.unique hchain
      exact .inl hrefers
    · exact .inr ⟨before', segments, after', hposition, hrefersIn, hrefers⟩
  · rintro (hrefers | ⟨before', segments, after', -, hrefersIn, hrefers⟩)
    · exact ⟨_, _, _, ⟨l, _, hsplit, hunclaimed, hchain⟩, hrefers⟩
    · exact ⟨before', segments, after', hrefersIn, hrefers⟩

/-- A class that implements two interfaces whose names have no lower-case letters. -/
def implementing : String := "class A implements IO, DAO {}"

theorem simpleNames_implementing : ∃ facts, scan implementing = .ok facts ∧
    facts.simpleNames.toList = ["IO"] :=
  exists_eq_ok_of_map (fun facts : Facts ↦ facts.simpleNames.toList) (by decide +kernel)

/-- The source does not explain the second of the two. -/
theorem not_found_implementing : ¬ Found (tokens implementing) (.declared "DAO") ∧
    ¬ Found (tokens implementing) (.parameter "DAO") ∧
    ¬ Found (tokens implementing) (.imported "DAO") := by
  obtain ⟨o, houtline, hexplains⟩ : ∃ o, outline (tokens implementing) = .ok o ∧
      o.explains "DAO" = false :=
    exists_eq_ok_of_map (fun o : Outline ↦ o.explains "DAO") (by decide +kernel)
  exact (Outline.explains_eq_false_iff houtline).1 hexplains

/-- The list of the class. -/
theorem listed_implementing : ∃ before list after, before.length = 3 ∧
    tokens implementing = before ++ (list ++ after) ∧ TypeListPlace before after ∧
      NameList list ["IO", "DAO"] := by
  have htokens : tokens implementing =
      ([⟨.classWord, "class", 0⟩, ⟨.identifier, "A", 6⟩] ++ [⟨.identifier, "implements", 8⟩]) ++
        ([⟨.identifier, "IO", 19⟩, ⟨.comma, ",", 21⟩, ⟨.identifier, "DAO", 23⟩] ++
          [⟨.openBrace, "\x7b", 27⟩, ⟨.closeBrace, "\x7d", 28⟩]) := by decide +kernel
  exact ⟨_, _, _, rfl, htokens, .clause rfl ⟨rfl, by decide⟩ (by decide),
    .cons rfl rfl (.single rfl)⟩

/-- The first of the two is found in its place, and the second one is not. -/
theorem mem_simpleNames_iff_of_listed_of_implementing : ∃ facts, scan implementing = .ok facts ∧
    "IO" ∈ facts.simpleNames ∧ "DAO" ∉ facts.simpleNames ∧
      ¬ RefersElsewhere (tokens implementing) 5 "DAO" := by
  obtain ⟨facts, h, hnames⟩ := simpleNames_implementing
  obtain ⟨before, list, after, hlength, htokens, hplace, hlist⟩ := listed_implementing
  have hio : "IO" ∈ facts.simpleNames := by simp [SortedSet.mem_iff, hnames]
  have hdao : "DAO" ∉ facts.simpleNames := by simp [SortedSet.mem_iff, hnames]
  have hiff := mem_simpleNames_iff_of_listed h htokens hplace
    (show NameList list (["IO"] ++ "DAO" :: []) from hlist) (by decide)
  rw [hlength] at hiff
  exact ⟨facts, h, hio, hdao, fun helsewhere ↦
    hdao (hiff.2 ⟨not_found_implementing, .inr (.inr helsewhere)⟩)⟩

/-- **A type in a list need not be found**, although the source does not explain its name. -/
theorem not_forall_mem_simpleNames_of_listed :
    ¬ ∀ source facts before list after names, scan source = .ok facts →
      tokens source = before ++ (list ++ after) → TypeListPlace before after →
      NameList list names → ∀ name ∈ names, isCapitalized name = true →
        ¬ Found (tokens source) (.declared name) → ¬ Found (tokens source) (.parameter name) →
        ¬ Found (tokens source) (.imported name) → name ∈ facts.simpleNames := by
  intro hall
  obtain ⟨facts, h, hnames⟩ := simpleNames_implementing
  obtain ⟨before, list, after, -, htokens, hplace, hlist⟩ := listed_implementing
  obtain ⟨hdeclared, hparameter, himported⟩ := not_found_implementing
  have hdao := hall _ _ _ _ _ _ h htokens hplace hlist "DAO" (by simp) (by decide) hdeclared
    hparameter himported
  simp [SortedSet.mem_iff, hnames] at hdao

end JavaDeps.Java
