import JavaDeps.Proofs.Java.Acceptance

/-!
# What the first reading finds

Declarations, type parameters, imports and claimed lexemes are stated place by place, with what
stands before a lexeme and what follows it (`Finds`). **The first reading finds exactly what there
is to find at any place** (`outline_has`), although it jumps over statements and looks ahead for
names. A jump misses nothing: inside of a statement there are no declarations and no brackets, and
how far a statement reaches is settled by its grammar.
-/

namespace JavaDeps.Java

/-- The identifiers among some lexemes, by their texts and in order. For a dotted name these are its
segments. -/
def words (ls : List Lexeme) : List String :=
  (ls.filter (·.kind == .identifier)).map (·.text)

/-- The ways to single out one element of a list: the first one, or one of those that follow. -/
theorem exists_split_cons {α : Type} {a : α} {rest : List α} {P : List α → α → List α → Prop} :
    (∃ before b after, a :: rest = before ++ b :: after ∧ P before b after) ↔
      P [] a rest ∨ ∃ before b after, rest = before ++ b :: after ∧ P (a :: before) b after := by
  constructor
  · rintro ⟨_ | ⟨c, before⟩, b, after, heq, h⟩
    · obtain ⟨rfl, rfl⟩ := List.cons.inj heq
      exact .inl h
    · obtain ⟨rfl, rfl⟩ := List.cons.inj heq
      exact .inr ⟨before, b, after, rfl, h⟩
  · rintro (h | ⟨before, b, after, rfl, h⟩)
    · exact ⟨[], a, rest, rfl, h⟩
    · exact ⟨a :: before, b, after, rfl, h⟩

/-! ### The rules -/

/-- A statement outside all braces: its keyword `l`, and what follows the keyword. -/
structure IsStatement (before : List Lexeme) (l : Lexeme) (kind : StatementKind)
    (body : List Lexeme) : Prop where
  outside : closed before = opened before
  keyword : l.kind = kind.keyword
  grammar : kind.AnyBody (kinds body)

/-- The keyword `l` of a declaration, with the name after it. After a dot, `class` is a literal; and
`record` is a keyword only if components or type parameters follow the name. -/
inductive IsDeclaration (before : List Lexeme) (l name : Lexeme) (after : List Lexeme) : Prop
  | keyword (hdot : ∀ p ∈ before.getLast?, p.kind ≠ .dot)
    (hl : l.kind = .classWord ∨ l.kind = .interfaceWord ∨ l.kind = .enumWord)
    (hname : name.kind = .identifier)
  | record {p : Lexeme} {more : List Lexeme} (hdot : ∀ p ∈ before.getLast?, p.kind ≠ .dot)
    (hl : l.kind = .identifier ∧ l.text = "record") (hname : name.kind = .identifier)
    (hafter : after = p :: more) (hp : p.kind = .openParen ∨ p.kind = .less)

/-- Where a list of type parameters may open: after a modifier, after the name of a class, interface
or record, and where a member starts. -/
inductive OpensParameters (before : List Lexeme) : Prop
  | modifier {pre : List Lexeme} {m : Lexeme} (hbefore : before = pre ++ [m])
    (hkind : m.kind = .identifier) (hm : m.text ∈ modifiers)
  | named {pre : List Lexeme} {d name : Lexeme} (hbefore : before = pre ++ [d, name])
    (hname : name.kind = .identifier)
    (hd : d.kind = .classWord ∨ d.kind = .interfaceWord ∨
      d.kind = .identifier ∧ d.text = "record")
  | member {pre : List Lexeme} {p : Lexeme} (hbefore : before = pre ++ [p])
    (hp : p.kind = .staticWord ∨ p.kind = .openBrace ∨ p.kind = .closeBrace ∨ p.kind = .semicolon)

/-- The kind of the last lexeme, or the one given if there is none. -/
def lastKind (first : TokenKind) (ls : List Lexeme) : TokenKind :=
  (ls.getLast?.map (·.kind)).getD first

/-- Whether a name may stand behind these lexemes in a list of type parameters, when `depth`
brackets are open before them and `previous` is the kind before them. The list has not ended yet,
the name is not inside of another bracket, and it follows the opening bracket or a comma. -/
structure Lists (depth : Nat) (previous : TokenKind) (between : List Lexeme) : Prop where
  within : ∀ m ∈ between, m.kind ≠ .openBrace ∧ m.kind ≠ .semicolon ∧ m.kind ≠ .openParen
  unclosed : ∀ inner, inner <+: between →
    (kinds inner).count .greater < depth + (kinds inner).count .less
  level : (kinds between).count .greater + 1 = depth + (kinds between).count .less
  separated : lastKind previous between = .less ∨ lastKind previous between = .comma

/-- A type parameter of the list that `l` opens, with what stands between the two. -/
structure IsParameter (before : List Lexeme) (l : Lexeme) (between : List Lexeme) (name : Lexeme) :
    Prop where
  bracket : l.kind = .less
  opens : OpensParameters before
  lists : Lists 1 .less between
  isName : name.kind = .identifier

/-- Something to find in a compilation unit: a lexeme that accounts for itself, or a name that needs
no explanation from elsewhere. -/
inductive Finding where
  /-- A lexeme that is no reference, at a position. -/
  | claimed (position : Nat)
  | declared (name : String)
  | parameter (name : String)
  /-- A simple name that an import puts into scope. -/
  | imported (name : String)

/-- **What there is to find at a lexeme**, by what stands before it and what follows. -/
inductive Finds (before : List Lexeme) (l : Lexeme) (rest : List Lexeme) : Finding → Prop
  /-- All lexemes of a statement are claimed. -/
  | statement {kind : StatementKind} {body after : List Lexeme} {position : Nat}
    (h : IsStatement before l kind body) (hrest : rest = body ++ after)
    (hfrom : before.length ≤ position) (hto : position ≤ before.length + body.length) :
    Finds before l rest (.claimed position)
  /-- A single import that is not static puts its last segment into scope. -/
  | imported {body after : List Lexeme} {name : String}
    (h : IsStatement before l .importing body) (hrest : rest = body ++ after)
    (hsingle : DottedName false (kinds body)) (hname : (words body).getLast? = some name) :
    Finds before l rest (.imported name)
  | declaration {name : Lexeme} {after : List Lexeme} {m : Finding}
    (h : IsDeclaration before l name after) (hrest : rest = name :: after)
    (hm : m = .claimed (before.length + 1) ∨ m = .declared name.text) : Finds before l rest m
  | parameter {between after : List Lexeme} {name : Lexeme} {m : Finding}
    (h : IsParameter before l between name) (hrest : rest = between ++ name :: after)
    (hm : m = .claimed (before.length + 1 + between.length) ∨ m = .parameter name.text) :
    Finds before l rest m

/-- What there is to find in some lexemes that stand behind others. -/
def FoundAfter (before ls : List Lexeme) (m : Finding) : Prop :=
  ∃ pre l rest, ls = pre ++ l :: rest ∧ Finds (before ++ pre) l rest m

/-- What there is to find in a compilation unit, at whichever of its lexemes it is found. -/
def Found (ls : List Lexeme) (m : Finding) : Prop := FoundAfter [] ls m

/-- Whether an outline holds a finding: a position among its claims, or a name among those that it
declares, has as parameters, or imports. -/
def Outline.Has (o : Outline) : Finding → Prop
  | .claimed position => position ∈ o.claimed
  | .declared name => name ∈ o.declaredNames
  | .parameter name => name ∈ o.typeParameters
  | .imported name => ∃ i ∈ o.imports, i.simpleName? = some name

/-! ### Declarations -/

theorem endsWithKind_eq_false_iff {before : List Lexeme} {kind : TokenKind} :
    endsWithKind before kind = false ↔ ∀ p ∈ before.reverse.getLast?, p.kind ≠ kind := by
  rw [List.getLast?_reverse, endsWithKind]
  cases before <;> simp

/-- The lexemes behind are kept in reverse. -/
theorem isDeclaration_iff {before after : List Lexeme} {l name : Lexeme} :
    IsDeclaration before.reverse l name after ↔
      declares before l (name :: after) = true ∧ name.kind = .identifier := by
  rw [declares, Bool.and_eq_true, Bool.not_eq_true', endsWithKind_eq_false_iff]
  constructor
  · rintro (⟨hdot, hl, hname⟩ | ⟨hdot, ⟨hkind, htext⟩, hname, rfl, hp⟩)
    · refine ⟨⟨hdot, ?_⟩, hname⟩
      rcases hl with hl | hl | hl <;> rw [hl]
    · refine ⟨⟨hdot, ?_⟩, hname⟩
      rw [hkind]
      simpa [htext, hname] using hp
  · rintro ⟨⟨hdot, hl⟩, hname⟩
    split at hl
    · next hkind => exact .keyword hdot (.inl hkind) hname
    · next hkind => exact .keyword hdot (.inr (.inl hkind)) hname
    · next hkind => exact .keyword hdot (.inr (.inr hkind)) hname
    · next hkind =>
      rcases after with - | ⟨p, more⟩
      · simp at hl
      · simp [hname] at hl
        exact .record hdot ⟨hkind, hl.1⟩ hname rfl hl.2
    · cases hl

/-- A list of type parameters opens behind what the grammar says: a keyword of a type with its name,
a modifier, or the end of something else. -/
theorem opensParameters_iff {before : List Lexeme} :
    OpensParameters before.reverse ↔ opensTypeParameters before = true := by
  constructor
  · rintro (⟨hbefore, hkind, hm⟩ | @⟨pre, d, name, hbefore, hname, hd⟩ | @⟨pre, p, hbefore, hp⟩)
    · obtain rfl : before = _ := (List.reverse_eq_iff.1 hbefore).trans List.reverse_concat
      simp [opensTypeParameters, hkind, hm]
    · obtain rfl : before = name :: d :: pre.reverse := by simpa using List.reverse_eq_iff.1 hbefore
      rw [opensTypeParameters, hname]
      simp only [List.head?_cons, Option.any_some, Bool.or_eq_true, beq_iff_eq, Lexeme.isWord,
        Bool.and_eq_true]
      exact .inr (or_assoc.2 hd)
    · obtain rfl : before = p :: pre.reverse := by simpa using List.reverse_eq_iff.1 hbefore
      rcases hp with hp | hp | hp | hp <;> rw [opensTypeParameters, hp]
  · intro h
    rcases before with - | ⟨prev, before⟩
    · cases h
    · rw [opensTypeParameters] at h
      rw [List.reverse_cons]
      split at h
      · next hkind =>
        rw [Bool.or_eq_true] at h
        rcases h with h | h
        · exact .modifier rfl hkind (by simpa using h)
        · rcases before with - | ⟨d, before⟩
          · cases h
          · refine .named (by rw [List.reverse_cons, List.append_assoc]; rfl) hkind ?_
            simpa [Lexeme.isWord, or_assoc] using h
      · next hkind => exact .member rfl (.inl hkind)
      · next hkind => exact .member rfl (.inr (.inl hkind))
      · next hkind => exact .member rfl (.inr (.inr (.inl hkind)))
      · next hkind => exact .member rfl (.inr (.inr (.inr hkind)))
      · cases h

/-! ### Type parameters -/

/-- A list of type parameters that goes on has a name next, at the depth of one and behind its
bracket or a comma. -/
theorem lists_nil_iff {depth : Nat} {previous : TokenKind} :
    Lists depth previous [] ↔ depth = 1 ∧ (previous = .less ∨ previous = .comma) := by
  constructor
  · intro h
    have hlevel : 0 + 1 = depth + 0 := h.level
    exact ⟨by omega, h.separated⟩
  · rintro ⟨rfl, hprevious⟩
    refine ⟨by simp, fun inner hinner ↦ ?_, rfl, hprevious⟩
    rw [List.prefix_nil.1 hinner]
    decide

/-- One more lexeme opens a bracket or closes one, or leaves them as they are. -/
theorem lists_cons_iff {depth depth' : Nat} {previous : TokenKind} {m : Lexeme}
    {between : List Lexeme} (hdepth : 0 < depth)
    (hstep : (kinds [m]).count .greater + depth' = depth + (kinds [m]).count .less) :
    Lists depth previous (m :: between) ↔
      (m.kind ≠ .openBrace ∧ m.kind ≠ .semicolon ∧ m.kind ≠ .openParen) ∧
        Lists depth' m.kind between := by
  have hcount (kind : TokenKind) (ls : List Lexeme) :
      (kinds (m :: ls)).count kind = (kinds [m]).count kind + (kinds ls).count kind := by
    rw [← List.singleton_append, kinds, List.map_append, List.count_append]
    rfl
  have hlast : lastKind previous (m :: between) = lastKind m.kind between := by
    rw [lastKind, List.getLast?_cons]
    cases hlast : between.getLast? <;> simp [lastKind, hlast]
  constructor
  · intro h
    obtain ⟨hm, hwithin⟩ := List.forall_mem_cons.1 h.within
    refine ⟨hm, hwithin, fun inner hinner ↦ ?_, ?_, hlast ▸ h.separated⟩
    · have hopen := h.unclosed (m :: inner) ((List.prefix_cons_inj m).2 hinner)
      rw [hcount .greater inner, hcount .less inner] at hopen
      omega
    · have hlevel := h.level
      rw [hcount .greater between, hcount .less between] at hlevel
      omega
  · rintro ⟨hm, h⟩
    refine ⟨List.forall_mem_cons.2 ⟨hm, h.within⟩, fun inner hinner ↦ ?_, ?_, hlast ▸ h.separated⟩
    · rcases List.prefix_cons_iff.1 hinner with rfl | ⟨more, rfl, hmore⟩
      · simpa [kinds] using hdepth
      · have hopen := h.unclosed more hmore
        rw [hcount .greater more, hcount .less more]
        omega
    · have hlevel := h.level
      rw [hcount .greater between, hcount .less between]
      omega

/-- **The type parameters of a list** are the names that may stand where they stand. -/
theorem mem_typeParametersFrom {depth : Nat} {previous : TokenKind} {start : Nat} {ls : List Lexeme}
    {p : Nat × String} (hdepth : 0 < depth) :
    p ∈ typeParametersFrom depth previous start ls ↔
      ∃ between name after, ls = between ++ name :: after ∧ Lists depth previous between ∧
        name.kind = .identifier ∧ p = (start + between.length, name.text) := by
  induction ls generalizing depth previous start with
  | nil => simp [typeParametersFrom]
  | cons l rest ih =>
    rw [exists_split_cons, lists_nil_iff]
    have hcount (kind : TokenKind) : (kinds [l]).count kind = if l.kind = kind then 1 else 0 := by
      simp [kinds, List.count_cons]
    -- whatever the lexeme does to the brackets, names further on are those of the rest
    have hstep {depth' : Nat} (hdepth' : 0 < depth')
        (hstep : (if l.kind = .greater then 1 else 0) + depth' =
          depth + if l.kind = .less then 1 else 0)
        (hl : l.kind ≠ .openBrace ∧ l.kind ≠ .semicolon ∧ l.kind ≠ .openParen) :
        p ∈ typeParametersFrom depth' l.kind (start + 1) rest ↔
          ∃ between name after, rest = between ++ name :: after ∧
            Lists depth previous (l :: between) ∧ name.kind = .identifier ∧
            p = (start + (l :: between).length, name.text) := by
      rw [ih hdepth']
      refine exists_congr fun between ↦ exists_congr fun name ↦ exists_congr fun after ↦ ?_
      rw [lists_cons_iff hdepth (by rw [hcount, hcount]; exact hstep), List.length_cons,
        Nat.add_right_comm, Nat.add_assoc start]
      simp [hl]
    have hend (hl : ¬ (l.kind ≠ .openBrace ∧ l.kind ≠ .semicolon ∧ l.kind ≠ .openParen) ∨
        l.kind = .greater ∧ depth = 1) (between : List Lexeme) :
        ¬ Lists depth previous (l :: between) := by
      intro h
      rcases hl with hl | ⟨hl, rfl⟩
      · exact hl (List.forall_mem_cons.1 h.within).1
      · have hopen := h.unclosed [l] (by simp)
        simp [hcount, hl] at hopen
    rw [typeParametersFrom]
    split
    · next hkind =>
      rw [hstep (Nat.succ_pos depth) (by simp [hkind]) (by simp [hkind])]
      exact (or_iff_right fun h ↦ by simp [hkind] at h).symm
    · next hkind =>
      split
      · next hle =>
        have hnone := hend (.inr ⟨hkind, by omega⟩)
        simp [hkind, hnone]
      · rw [hstep (by omega) (by simp [hkind]; omega) (by simp [hkind])]
        exact (or_iff_right fun h ↦ by simp [hkind] at h).symm
    · next hkind => simp [hkind, hend (.inl (by simp [hkind]))]
    · next hkind => simp [hkind, hend (.inl (by simp [hkind]))]
    · next hkind => simp [hkind, hend (.inl (by simp [hkind]))]
    · next hkind =>
      have hmore := hstep hdepth (by simp [hkind]) (by simp [hkind])
      split
      · next hfirst => rw [List.mem_cons, hmore]; simp [hfirst, hkind]
      · next hfirst => rw [hmore]; simp [hfirst]
    · next hless hgreater hbrace hsemicolon hparen hname =>
      rw [hstep hdepth (by rw [if_neg hless, if_neg hgreater, Nat.zero_add, Nat.add_zero])
        ⟨hbrace, hsemicolon, hparen⟩]
      exact (or_iff_right fun h ↦ hname h.2.1).symm

/-! ### What each step takes in -/

namespace Outline

variable {o : Outline} {m : Finding} {start : Nat}

theorem has_declare {topLevel : Bool} {name : Lexeme} {after : List Lexeme}
    (hname : name.kind = .identifier) :
    (o.declare topLevel start (name :: after)).Has m ↔
      o.Has m ∨ m = .claimed start ∨ m = .declared name.text := by
  cases m <;> simp [declare, hname, Has, or_comm]

/-- A list of type parameters adds their positions and their names. -/
theorem has_parametrize {rest : List Lexeme} :
    (o.parametrize start rest).Has m ↔
      o.Has m ∨ ∃ between name after, rest = between ++ name :: after ∧ Lists 1 .less between ∧
        name.kind = .identifier ∧
        (m = .claimed (start + between.length) ∨ m = .parameter name.text) := by
  have hfound {P : Nat × String → Prop} :
      (∃ p ∈ typeParametersFrom 1 .less start rest, P p) ↔
        ∃ between name after, rest = between ++ name :: after ∧ Lists 1 .less between ∧
          name.kind = .identifier ∧ P (start + between.length, name.text) := by
    constructor
    · rintro ⟨p, hp, h⟩
      obtain ⟨between, name, after, hrest, hlists, hname, rfl⟩ :=
        (mem_typeParametersFrom Nat.zero_lt_one).1 hp
      exact ⟨between, name, after, hrest, hlists, hname, h⟩
    · rintro ⟨between, name, after, hrest, hlists, hname, h⟩
      exact ⟨_, (mem_typeParametersFrom Nat.zero_lt_one).2
        ⟨between, name, after, hrest, hlists, hname, rfl⟩, h⟩
  cases m with
  | claimed position =>
    simp only [parametrize, Has, List.mem_append, List.mem_map, hfound, or_comm, reduceCtorEq,
      false_or, Finding.claimed.injEq, eq_comm (a := position)]
  | parameter name =>
    simp only [parametrize, Has, List.mem_append, List.mem_map, hfound, or_comm, reduceCtorEq,
      false_or, Finding.parameter.injEq, eq_comm (a := name)]
  | declared name => simp [parametrize, Has]
  | imported name => simp [parametrize, Has]

theorem has_claim {count : Nat} :
    (o.claim start count).Has m ↔
      o.Has m ∨
        ∃ position, m = .claimed position ∧ start ≤ position ∧ position < start + count := by
  cases m <;> simp [claim, Has, List.mem_range'_1, or_comm]

theorem has_state {s : Statement} :
    (o.state s).Has m ↔
      o.Has m ∨ ∃ i name, s = .importing i ∧ i.simpleName? = some name ∧ m = .imported name := by
  cases s <;> cases m <;> simp [state, Has, or_and_right, exists_or]

end Outline

/-! ### Steps by one lexeme -/

section

variable {before rest : List Lexeme} {l : Lexeme} {o : Outline} {m : Finding} {depth : Nat}

/-- Where no statement starts, a declaration or a list of type parameters may. -/
theorem finds_iff_of_not_statement (h : ∀ kind body, ¬ IsStatement before l kind body) :
    Finds before l rest m ↔
      (∃ name after, IsDeclaration before l name after ∧ rest = name :: after ∧
        (m = .claimed (before.length + 1) ∨ m = .declared name.text)) ∨
      ∃ between name after, IsParameter before l between name ∧ rest = between ++ name :: after ∧
        (m = .claimed (before.length + 1 + between.length) ∨ m = .parameter name.text) := by
  constructor
  · rintro (⟨hstatement, -⟩ | ⟨hstatement, -⟩ | ⟨hname, hrest, hm⟩ | ⟨hname, hrest, hm⟩)
    · exact absurd hstatement (h _ _)
    · exact absurd hstatement (h _ _)
    · exact .inl ⟨_, _, hname, hrest, hm⟩
    · exact .inr ⟨_, _, _, hname, hrest, hm⟩
  · rintro (⟨name, after, hname, hrest, hm⟩ | ⟨between, name, after, hname, hrest, hm⟩)
    · exact .declaration hname hrest hm
    · exact .parameter hname hrest hm

theorem kind_ne_of_declares (h : declares before l rest = true) : l.kind ≠ .less := by
  intro hl
  simp [declares, hl] at h

/-- **One lexeme is taken in for what there is to find at it.** -/
theorem Outline.has_note {topLevel : Bool}
    (h : ∀ kind body, ¬ IsStatement before.reverse l kind body) :
    (o.note topLevel before l rest).Has m ↔ o.Has m ∨ Finds before.reverse l rest m := by
  rw [finds_iff_of_not_statement h, List.length_reverse, note]
  split
  · next hdeclares =>
    have hbracket : ∀ between name, ¬ IsParameter before.reverse l between name :=
      fun _ _ hname ↦ kind_ne_of_declares hdeclares hname.bracket
    rcases rest with - | ⟨name, after⟩
    · simp [declare, hbracket]
    · by_cases hname : name.kind = .identifier
      · have hdeclaration := isDeclaration_iff.2 ⟨hdeclares, hname⟩
        simp only [has_declare hname, hbracket, false_and, exists_false, or_false]
        refine or_congr_right ⟨fun hm ↦ ⟨name, after, hdeclaration, rfl, hm⟩, ?_⟩
        rintro ⟨_, _, -, ⟨⟩, hm⟩
        exact hm
      · have hnone : ∀ after', ¬ IsDeclaration before.reverse l name after' :=
          fun _ hdeclaration ↦ hname (isDeclaration_iff.1 hdeclaration).2
        simp [declare, hname, hbracket, hnone]
  · next hdeclares =>
    have hnone : ∀ name after, rest = name :: after →
        ¬ IsDeclaration before.reverse l name after := by
      rintro name after rfl hdeclaration
      exact hdeclares (isDeclaration_iff.1 hdeclaration).1
    split
    · next hopens =>
      rw [has_parametrize]
      refine or_congr_right ⟨?_, ?_⟩
      · rintro ⟨between, name, after, hrest, hlists, hname, hm⟩
        exact .inr ⟨between, name, after,
          ⟨hopens.1, opensParameters_iff.2 hopens.2, hlists, hname⟩, hrest, hm⟩
      · rintro (⟨name, after, hdeclaration, hrest, -⟩ | ⟨between, name, after, hname, hrest, hm⟩)
        · exact absurd hdeclaration (hnone name after hrest)
        · exact ⟨between, name, after, hrest, hname.lists, hname.isName, hm⟩
    · next hopens =>
      refine (or_iff_left ?_).symm
      rintro (⟨name, after, hdeclaration, hrest, -⟩ | ⟨between, name, after, hname, -⟩)
      · exact hnone name after hrest hdeclaration
      · exact hopens ⟨hname.bracket, opensParameters_iff.1 hname.opens⟩

/-! ### Steps by a statement -/

/-- In a name no identifier follows another one, and none is the last lexeme. -/
theorem NameRest.next {wildcard : Bool} {ks pre more : List TokenKind} (h : NameRest wildcard ks)
    (hks : .identifier :: ks = pre ++ .identifier :: more) :
    ∃ k more', more = k :: more' ∧ k ≠ .identifier := by
  induction h generalizing pre with
  | stop =>
    rcases pre with - | ⟨k, pre⟩
    · exact ⟨_, _, (List.cons.inj hks).2.symm, by decide⟩
    · have hmem : TokenKind.identifier ∈ [TokenKind.semicolon] := by simp [(List.cons.inj hks).2]
      simp at hmem
  | all =>
    rcases pre with - | ⟨k, pre⟩
    · exact ⟨_, _, (List.cons.inj hks).2.symm, by decide⟩
    · have hmem : TokenKind.identifier ∈ [TokenKind.dot, .star, .semicolon] := by
        simp [(List.cons.inj hks).2]
      simp at hmem
  | segment _ ih =>
    rcases pre with - | ⟨k, - | ⟨k', pre⟩⟩
    · exact ⟨_, _, (List.cons.inj hks).2.symm, by decide⟩
    · cases hks
    · exact ih (List.cons.inj (List.cons.inj hks).2).2

/-- In a statement, no identifier follows another one. -/
theorem StatementBody.next {kind : StatementKind} {wildcard : Bool} {ks pre more : List TokenKind}
    (h : StatementBody kind wildcard ks) (hks : ks = pre ++ .identifier :: more) :
    ∃ k more', more = k :: more' ∧ k ≠ .identifier := by
  rcases h with ⟨⟨h⟩⟩ | ⟨⟨h⟩⟩
  · exact h.next hks
  · rcases pre with - | ⟨k, pre⟩
    · cases hks
    · exact h.next (List.cons.inj hks).2

/-- Whether a name ends with a star is told by its kinds. -/
theorem DottedName.wildcard_unique {w w' : Bool} {ks : List TokenKind} (h : DottedName w ks)
    (h' : DottedName w' ks) : w = w' := by
  cases h with
  | @start rest h =>
    rw [dottedName_identifier_iff, ← List.append_nil rest] at h'
    exact (h.eq_nil h').2

section Reading

variable {segments : List String} {used n : Nat} {ls : List Lexeme} {path : NamePath}

/-- The segments of a name that is read are the words of the lexemes used up. -/
theorem words_of_readNameAfter (h : readNameAfter segments used ls = .ok (path, n)) :
    ∃ k, n = used + k ∧ path.segments = segments ++ words (ls.take k) := by
  fun_induction readNameAfter segments used ls with
  | case2 segments used l rest hsemicolon =>
    obtain ⟨rfl, rfl⟩ := Prod.mk.inj (Except.ok.inj h)
    exact ⟨1, rfl, by simp [words, hsemicolon]⟩
  | case5 segments used l hsemicolon hdot s more hname ih =>
    obtain ⟨k, rfl, hsegments⟩ := ih h
    refine ⟨k + 2, by omega, ?_⟩
    rw [hsegments, List.append_assoc]
    simp [words, not_not.1 hdot, hname]
  | case8 segments used l hsemicolon hdot s hname hstar e tail hend =>
    obtain ⟨rfl, rfl⟩ := Prod.mk.inj (Except.ok.inj h)
    exact ⟨3, rfl, by simp [words, not_not.1 hdot, not_not.1 hstar, hend]⟩
  | _ => cases h

/-- **A name is read as its identifiers**, through the semicolon. -/
theorem of_readName (h : readName ls = .ok (path, n)) :
    n ≤ ls.length ∧ DottedName path.wildcard (kinds (ls.take n)) ∧
      path.segments = words (ls.take n) := by
  obtain ⟨ks, hks, hpre, hn⟩ := dottedName_of_readName h
  have htake : kinds (ls.take n) = ks := by
    rw [kinds, List.map_take, hn]
    exact (List.prefix_iff_eq_take.1 hpre).symm
  refine ⟨hn ▸ by simpa [kinds] using hpre.length_le, htake ▸ hks, ?_⟩
  rcases ls with - | ⟨l, rest⟩
  · cases h
  · rw [readName] at h
    split at h
    · next hname =>
      obtain ⟨k, rfl, hsegments⟩ := words_of_readNameAfter h
      rw [hsegments, Nat.add_comm]
      simp [words, hname]
    · cases h

end Reading

variable {final used : Nat} {kind : StatementKind} {s : Statement}

/-- **What is read as a statement**, and the simple name that comes of it. -/
theorem of_readStatement (h : readStatement final kind l rest = .ok (s, used)) :
    used ≤ rest.length ∧ kind.AnyBody (kinds (rest.take used)) ∧
      ∀ name, (∃ i, s = .importing i ∧ i.simpleName? = some name) ↔
        kind = .importing ∧ DottedName false (kinds (rest.take used)) ∧
          (words (rest.take used)).getLast? = some name := by
  cases kind with
  | package =>
    rcases hname : readName rest with e | ⟨path, n⟩ <;> simp only [readStatement, hname] at h
    · cases h
    · split at h
      · cases h
      · obtain ⟨rfl, rfl⟩ := Prod.mk.inj (Except.ok.inj h)
        obtain ⟨hle, hdotted, -⟩ := of_readName hname
        exact ⟨hle, ⟨_, .named hdotted⟩, fun name ↦ by simp⟩
  | importing =>
    by_cases hstatic : (rest.head?.any (·.kind == .staticWord)) = true
    · obtain ⟨first, more, rfl⟩ : ∃ first more, rest = first :: more := by
        rcases rest with - | ⟨first, more⟩
        · cases hstatic
        · exact ⟨first, more, rfl⟩
      have hfirst : first.kind = .staticWord := by simpa using hstatic
      rcases hname : readName more with e | ⟨path, n⟩
      · simp [readStatement, hfirst, hname] at h
      · simp only [readStatement, hstatic, if_true, List.drop_succ_cons, List.drop_zero, hname] at h
        obtain ⟨rfl, rfl⟩ := Prod.mk.inj (Except.ok.inj h)
        obtain ⟨hle, hdotted, -⟩ := of_readName hname
        have hkinds :
            kinds ((first :: more).take (1 + n)) = .staticWord :: kinds (more.take n) := by
          rw [Nat.add_comm, List.take_succ_cons, kinds, List.map_cons, hfirst]
          rfl
        rw [hkinds]
        refine ⟨by rw [List.length_cons]; omega, ⟨_, .static hdotted⟩, fun name ↦ ?_⟩
        -- a static import puts no simple name into scope
        refine iff_of_false ?_ ?_
        · rintro ⟨i, ⟨⟩, hi⟩
          cases hi
        · rintro ⟨-, ⟨⟩, -⟩
    · rcases hname : readName rest with e | ⟨path, n⟩
      · simp [readStatement, hstatic, hname] at h
      · simp only [readStatement, hstatic, Bool.false_eq_true, if_false, List.drop_zero, hname] at h
        obtain ⟨rfl, rfl⟩ := Prod.mk.inj (Except.ok.inj h)
        obtain ⟨hle, hdotted, hsegments⟩ := of_readName hname
        rw [Nat.zero_add]
        refine ⟨hle, ⟨_, .named hdotted⟩, fun name ↦ ?_⟩
        rw [← hsegments]
        constructor
        · rintro ⟨i, ⟨⟩, hi⟩
          cases hwildcard : path.wildcard with
          | true => simp [Import.simpleName?, hwildcard] at hi
          | false =>
            exact ⟨rfl, hwildcard ▸ hdotted, by simpa [Import.simpleName?, hwildcard] using hi⟩
        · rintro ⟨-, hsingle, hlast⟩
          have hwildcard := hdotted.wildcard_unique hsingle
          exact ⟨_, rfl, by simpa [Import.simpleName?, hwildcard] using hlast⟩

/-- How far a statement reaches is settled by its grammar. -/
theorem IsStatement.body_eq {body after : List Lexeme} {n : Nat}
    (h : IsStatement before l kind body) (hrest : rest = body ++ after)
    (hread : kind.AnyBody (kinds (rest.take n))) : body = rest.take n := by
  -- no body of a statement is the beginning of another one
  have hnil {more : List Lexeme} {ks : List TokenKind} (hks : kind.AnyBody ks)
      (hmore : kind.AnyBody (ks ++ kinds more)) : more = [] :=
    List.map_eq_nil_iff.1 (kind.prefixFree_anyBody ks (kinds more) hks hmore)
  have hbody : body <+: rest := ⟨after, hrest.symm⟩
  have htake : rest.take n <+: rest := List.take_prefix n rest
  rcases List.prefix_or_prefix_of_prefix hbody htake with ⟨more, hmore⟩ | ⟨more, hmore⟩
  · rw [← hmore, kinds, List.map_append] at hread
    rw [← hmore, hnil h.grammar hread, List.append_nil]
  · have hgrammar := h.grammar
    rw [← hmore, kinds, List.map_append] at hgrammar
    rw [← hmore, hnil hread hgrammar, List.append_nil]

theorem StatementKind.keyword_inj {kind kind' : StatementKind} (h : kind.keyword = kind'.keyword) :
    kind = kind' := by
  cases kind <;> cases kind' <;> first | rfl | cases h

/-- **A statement is taken in for what there is to find at its keyword.** -/
theorem Outline.has_statement (hread : readStatement final kind l rest = .ok (s, used))
    (hkeyword : l.kind = kind.keyword) (houtside : closed before = opened before) :
    ((o.state s).claim before.length (used + 1)).Has m ↔ o.Has m ∨ Finds before l rest m := by
  obtain ⟨hle, hbody, hname⟩ := of_readStatement hread
  have hstatement : IsStatement before l kind (rest.take used) := ⟨houtside, hkeyword, hbody⟩
  have hrest : rest = rest.take used ++ rest.drop used := (List.take_append_drop used rest).symm
  have hlength : (rest.take used).length = used := List.length_take_of_le hle
  rw [has_claim, has_state, or_assoc]
  refine or_congr_right ⟨?_, ?_⟩
  · rintro (⟨i, name, hs, hi, rfl⟩ | ⟨position, rfl, hfrom, hto⟩)
    · obtain ⟨rfl, hsingle, hlast⟩ := (hname name).1 ⟨i, hs, hi⟩
      exact .imported hstatement hrest hsingle hlast
    · exact .statement hstatement hrest hfrom (by omega)
  · rintro (⟨h, hrest', hfrom, hto⟩ | ⟨h, hrest', hsingle, hlast⟩ | ⟨h, -⟩ | ⟨h, -⟩)
    · obtain rfl := StatementKind.keyword_inj (h.keyword.symm.trans hkeyword)
      rw [h.body_eq hrest' hbody, hlength] at hto
      exact .inr ⟨_, rfl, hfrom, by omega⟩
    · obtain rfl : .importing = kind :=
        StatementKind.keyword_inj (h.keyword.symm.trans hkeyword)
      rw [h.body_eq hrest' hbody] at hsingle hlast
      obtain ⟨i, hs, hi⟩ := (hname _).2 ⟨rfl, hsingle, hlast⟩
      exact .inl ⟨i, _, hs, hi, rfl⟩
    · rcases h with ⟨-, hl, -⟩ | ⟨-, hl, -⟩ <;> rw [hkeyword] at hl <;> cases kind <;>
        simp [StatementKind.keyword] at hl
    · have hbracket := hkeyword.symm.trans h.bracket
      cases kind <;> cases hbracket

/-- **There is nothing to find inside of a statement.** -/
theorem not_finds_inside {body pre more after : List Lexeme} {x : Lexeme}
    (hgrammar : kind.AnyBody (kinds body)) (hparts : ∀ y ∈ body, y.kind.inStatement)
    (hbody : body = pre ++ x :: more) : ¬ Finds before x (more ++ after) m := by
  have hx : x.kind.inStatement := hparts x (by simp [hbody])
  have hstatement (kind : StatementKind) : x.kind ≠ kind.keyword :=
    hx.ne (by cases kind <;> simp [TokenKind.inStatement, StatementKind.keyword])
  rintro (⟨h, -⟩ | ⟨h, -⟩ | ⟨h, hrest, -⟩ | ⟨h, -⟩)
  · exact hstatement _ h.keyword
  · exact hstatement _ h.keyword
  · rcases h with ⟨-, hl, -⟩ | ⟨-, hl, hname, -⟩
    · rcases hl with hl | hl | hl <;> exact hx.ne (by simp [TokenKind.inStatement]) hl
    · -- what follows a name in a statement is a dot or the semicolon
      obtain ⟨_, hgrammar⟩ := hgrammar
      have hkinds : kinds body = kinds pre ++ .identifier :: kinds more := by
        rw [hbody, kinds, List.map_append, List.map_cons, hl.1]
        rfl
      obtain ⟨k, more', hmore, hk⟩ := hgrammar.next hkinds
      obtain ⟨y, more, rfl, rfl, -⟩ := List.map_eq_cons_iff.1 hmore
      obtain ⟨rfl, -⟩ := List.cons.inj hrest
      exact hk hname
  · exact hx.ne (by simp [TokenKind.inStatement]) h.bracket

/-- What is found in a list is found at its first lexeme, or behind it. -/
theorem foundAfter_cons_iff :
    FoundAfter before (l :: rest) m ↔
      Finds before l rest m ∨ FoundAfter (before ++ [l]) rest m := by
  rw [FoundAfter, exists_split_cons, List.append_nil]
  refine or_congr_right (exists_congr fun pre ↦ exists_congr fun x ↦ exists_congr fun more ↦ ?_)
  rw [List.append_assoc, List.singleton_append]

/-- Where there is nothing to find, it is to be found behind. -/
theorem foundAfter_append_iff {body : List Lexeme}
    (h : ∀ pre x more, body = pre ++ x :: more → ∀ before, ¬ Finds before x (more ++ rest) m) :
    FoundAfter before (body ++ rest) m ↔ FoundAfter (before ++ body) rest m := by
  induction body generalizing before with
  | nil => rw [List.nil_append, List.append_nil]
  | cons x more ih =>
    rw [List.cons_append, foundAfter_cons_iff, or_iff_right (h [] x more rfl before),
      ih fun pre y more' hmore ↦ h (x :: pre) y more' (by rw [hmore, List.cons_append]),
      List.append_assoc, List.singleton_append]

end

/-! ### The whole reading -/

theorem opened_reverse (ls : List Lexeme) : opened ls.reverse = opened ls :=
  List.countP_reverse

theorem closed_reverse (ls : List Lexeme) : closed ls.reverse = closed ls :=
  List.countP_reverse

/-- Nothing is found at a brace. -/
theorem not_finds_brace {before rest : List Lexeme} {l : Lexeme} {m : Finding}
    (hl : l.kind = .openBrace ∨ l.kind = .closeBrace) : ¬ Finds before l rest m := by
  have hstatement (kind : StatementKind) : l.kind ≠ kind.keyword := by
    rcases hl with hl | hl <;> cases kind <;> simp [hl, StatementKind.keyword]
  rintro (⟨h, -⟩ | ⟨h, -⟩ | ⟨⟨-, h, -⟩ | ⟨-, h, -⟩, -⟩ | ⟨h, -⟩)
  · exact hstatement _ h.keyword
  · exact hstatement _ h.keyword
  · rcases hl with hl | hl <;> simp [hl] at h
  · rcases hl with hl | hl <;> simp [hl] at h
  · rcases hl with hl | hl <;> cases h.bracket.symm.trans hl

/-- **Reading on takes in what there is to find ahead.** -/
theorem has_of_outlineFrom {final depth : Nat} {before ls : List Lexeme} {o o' : Outline}
    (h : outlineFrom final before depth o ls = .ok o')
    (hdepth : closed before + depth = opened before) (m : Finding) :
    o'.Has m ↔ o.Has m ∨ FoundAfter before.reverse ls m := by
  -- by the number of lexemes ahead, since a statement is jumped over whole
  match ls with
  | [] =>
    rw [outlineFrom] at h
    split at h
    · obtain rfl := Except.ok.inj h
      simp [FoundAfter]
    · cases h
  | l :: rest =>
    have hopened : opened (l :: before) = opened before + opened [l] := by
      rw [← List.singleton_append, opened_append, Nat.add_comm]
    have hclosed : closed (l :: before) = closed before + closed [l] := by
      rw [← List.singleton_append, closed_append, Nat.add_comm]
    rw [opened_singleton] at hopened
    rw [closed_singleton] at hclosed
    rw [foundAfter_cons_iff, ← List.reverse_cons, ← or_assoc]
    rcases outlineFrom_cons h with ⟨hl, hrest⟩ | ⟨hl, outer, rfl, hrest⟩ |
      ⟨hopen, hclose, kind, s, used, hkind, hread, hrest⟩ | ⟨hopen, hclose, hkind, hrest⟩
    · rw [has_of_outlineFrom hrest (by simp [hopened, hclosed, hl]; omega) m,
        or_iff_left (not_finds_brace (.inl hl))]
    · rw [has_of_outlineFrom hrest (by simp [hopened, hclosed, hl]; omega) m,
        or_iff_left (not_finds_brace (.inr hl))]
    · obtain ⟨rfl, hkeyword⟩ := statementKind?_eq_some_iff.1 hkind
      have houtside : closed before.reverse = opened before.reverse := by
        rw [closed_reverse, opened_reverse]
        exact hdepth
      have hparts := readStatement_inStatement hread
      have hinside : closed (rest.take used) = 0 ∧ opened (rest.take used) = 0 :=
        ⟨closed_of_inStatement hparts, opened_of_inStatement hparts⟩
      obtain ⟨-, hgrammar, -⟩ := of_readStatement hread
      -- the rest of the statement can be left out
      have hskip : FoundAfter (l :: before).reverse rest m ↔
          FoundAfter ((l :: before).reverse ++ rest.take used) (rest.drop used) m := by
        conv_lhs => rw [← List.take_append_drop used rest]
        exact foundAfter_append_iff fun pre x more hbody before ↦
          not_finds_inside hgrammar hparts hbody
      rw [has_of_outlineFrom hrest ?_ m, ← before.length_reverse,
        Outline.has_statement hread hkeyword houtside, hskip, List.reverse_append,
        List.reverse_reverse]
      rw [closed_append, opened_append, closed_reverse, opened_reverse]
      simpa [hopened, hclosed, hopen, hclose, hinside] using hdepth
    · -- within braces, and away from the keywords, no statement starts
      have hstatement : ∀ kind body, ¬ IsStatement before.reverse l kind body := by
        intro kind body hstatement
        have houtside := hstatement.outside
        rw [closed_reverse, opened_reverse] at houtside
        rw [statementKind?_eq_some_iff.2 ⟨by omega, hstatement.keyword⟩] at hkind
        cases hkind
      rw [has_of_outlineFrom hrest (by simpa [hopened, hclosed, hopen, hclose] using hdepth) m,
        Outline.has_note hstatement]
termination_by ls.length
decreasing_by all_goals simp only [List.length_cons, List.length_drop]; omega

/-- **The first reading finds exactly what there is to find**, place by place. -/
theorem outline_has {ls : List Lexeme} {o : Outline} (h : outline ls = .ok o) (m : Finding) :
    o.Has m ↔ Found ls m := by
  rw [has_of_outlineFrom h rfl, Found]
  refine or_iff_right ?_
  cases m <;> simp [Outline.Has]

end JavaDeps.Java
