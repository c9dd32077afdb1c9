import JavaDeps.Proofs.Java.Findings

/-!
# What statements cover

A package or import statement outside all braces covers the lexemes from its keyword through its
semicolon (`Covered`). This is stated by place and grammar, without the reading that jumps from
statement to statement.

How far a statement covers is settled by its ends: it begins with a keyword that occurs nowhere
inside of one, and ends with its only semicolon. So whether a lexeme is covered passes on to its
neighbours (`Covered.pred`, `Covered.succ`), and **a stretch of lexemes around one that no statement
covers is free of statements**, if no semicolon stands before that one and no keyword behind it
(`outside_of_not_covered`).
-/

namespace JavaDeps.Java

/-! ### The two ends of a statement -/

/-- The rest of a name is made of kinds that may stand in a statement, with the semicolon last. -/
theorem NameRest.inStatement {wildcard : Bool} {ks : List TokenKind} (h : NameRest wildcard ks) :
    (∀ k ∈ ks, k.inStatement) ∧ ks.getLast? = some .semicolon := by
  induction h with
  | stop => simp [TokenKind.inStatement]
  | all => simp [TokenKind.inStatement]
  | segment _ ih =>
    obtain ⟨hparts, hlast⟩ := ih
    refine ⟨?_, by simp [List.getLast?_cons, hlast]⟩
    rw [List.forall_mem_cons, List.forall_mem_cons]
    exact ⟨.inr (.inl rfl), .inl rfl, hparts⟩

theorem DottedName.inStatement {wildcard : Bool} {ks : List TokenKind}
    (h : DottedName wildcard ks) : (∀ k ∈ ks, k.inStatement) ∧ ks.getLast? = some .semicolon := by
  obtain ⟨h⟩ := h
  obtain ⟨hparts, hlast⟩ := h.inStatement
  exact ⟨List.forall_mem_cons.2 ⟨.inl rfl, hparts⟩, by simp [List.getLast?_cons, hlast]⟩

/-- All that follows the keyword of a statement may stand in one, with the semicolon last. -/
theorem StatementBody.inStatement {kind : StatementKind} {wildcard : Bool} {ks : List TokenKind}
    (h : StatementBody kind wildcard ks) :
    (∀ k ∈ ks, k.inStatement) ∧ ks.getLast? = some .semicolon := by
  obtain ⟨h⟩ | ⟨h⟩ := h
  · exact h.inStatement
  · obtain ⟨hparts, hlast⟩ := h.inStatement
    refine ⟨List.forall_mem_cons.2 ⟨?_, hparts⟩, by simp [List.getLast?_cons, hlast]⟩
    simp [TokenKind.inStatement]

section

variable {before body : List Lexeme} {l : Lexeme} {kind : StatementKind}

theorem IsStatement.inStatement (h : IsStatement before l kind body) :
    ∀ m ∈ body, m.kind.inStatement := by
  obtain ⟨_, hbody⟩ := h.grammar
  exact List.forall_mem_map.1 hbody.inStatement.1

/-- A statement ends with its semicolon. -/
theorem IsStatement.exists_semicolon (h : IsStatement before l kind body) :
    ∃ front e, body = front ++ [e] ∧ e.kind = .semicolon := by
  obtain ⟨_, hbody⟩ := h.grammar
  have hlast := hbody.inStatement.2
  rw [kinds, List.getLast?_map, Option.map_eq_some_iff] at hlast
  obtain ⟨e, he, hkind⟩ := hlast
  obtain ⟨front, rfl⟩ := List.getLast?_eq_some_iff.1 he
  exact ⟨front, e, rfl, hkind⟩

theorem ne_keyword {k : TokenKind} (h : k ≠ .packageWord ∧ k ≠ .importWord)
    (kind : StatementKind) : k ≠ kind.keyword := by
  cases kind with
  | package => exact h.1
  | importing => exact h.2

/-- Keywords stand at the beginning of statements only. -/
theorem not_inStatement_keyword (kind : StatementKind) : ¬ kind.keyword.inStatement := by
  cases kind <;> simp [TokenKind.inStatement, StatementKind.keyword]

end

/-! ### What a statement covers -/

/-- The kinds of token in a statement. -/
def statementKinds : List TokenKind :=
  [.packageWord, .importWord, .staticWord, .identifier, .dot, .star, .semicolon]

/-- Whether the lexeme `m` is part of a statement outside all braces: its keyword, or one of the
lexemes behind the keyword. -/
inductive Covered (before : List Lexeme) (m : Lexeme) (rest : List Lexeme) : Prop
  | keyword {kind : StatementKind} {body after : List Lexeme} (h : IsStatement before m kind body)
    (hrest : rest = body ++ after)
  | part {pre front back after : List Lexeme} {l : Lexeme} {kind : StatementKind}
    (h : IsStatement pre l kind (front ++ m :: back)) (hbefore : before = pre ++ l :: front)
    (hrest : rest = back ++ after)

namespace Covered

variable {before rest : List Lexeme} {m m' : Lexeme}

theorem kind_mem (h : Covered before m rest) : m.kind ∈ statementKinds := by
  obtain @⟨kind, _, _, h, -⟩ | ⟨h, -, -⟩ := h
  · rw [h.keyword]
    cases kind <;> simp [StatementKind.keyword, statementKinds]
  · rcases h.inStatement m (by simp) with hm | hm | hm | hm | hm <;> simp [hm, statementKinds]

/-- A statement goes on behind each of its lexemes but the semicolon. -/
theorem succ (h : Covered before m (m' :: rest)) (hm : m.kind ≠ .semicolon) :
    Covered (before ++ [m]) m' rest := by
  obtain ⟨h, hrest⟩ | @⟨pre, front, back, after, l, kind, h, rfl, hrest⟩ := h
  · obtain ⟨front, e, rfl, he⟩ := h.exists_semicolon
    rcases front with - | ⟨x, front⟩
    · obtain ⟨rfl, rfl⟩ := List.cons.inj hrest
      exact .part (show IsStatement _ m _ ([] ++ _ :: _) from h) rfl rfl
    · obtain ⟨rfl, rfl⟩ := List.cons.inj hrest
      exact .part (show IsStatement _ m _ ([] ++ _ :: _) from h) rfl rfl
  · rcases back with - | ⟨x, back⟩
    · -- the last lexeme of a statement is its semicolon
      obtain ⟨front', e, heq, he⟩ := h.exists_semicolon
      obtain ⟨-, heq⟩ := List.append_inj' heq rfl
      obtain rfl : m = e := by simpa using heq
      exact absurd he hm
    · obtain ⟨rfl, rfl⟩ := List.cons.inj hrest
      exact .part (show IsStatement pre l kind ((front ++ [m]) ++ m' :: back) by simpa using h)
        (by simp) rfl

/-- A statement reaches back to its keyword. -/
theorem pred (h : Covered (before ++ [m]) m' rest)
    (hm' : ∀ kind : StatementKind, m'.kind ≠ kind.keyword) : Covered before m (m' :: rest) := by
  obtain ⟨h, -⟩ | @⟨pre, front, back, after, l, kind, h, hbefore, rfl⟩ := h
  · exact absurd h.keyword (hm' _)
  · rcases List.eq_nil_or_concat front with rfl | ⟨front, x, rfl⟩
    · obtain ⟨rfl, heq⟩ := List.append_inj' hbefore rfl
      obtain rfl : m = l := by simpa using heq
      exact .keyword h rfl
    · rw [List.concat_eq_append, ← List.cons_append, ← List.append_assoc] at hbefore
      obtain ⟨rfl, heq⟩ := List.append_inj' hbefore rfl
      obtain rfl : m = x := by simpa using heq
      exact .part (show IsStatement pre l kind (front ++ m :: (m' :: back)) by simpa using h)
        rfl rfl

/-- A name in a statement is not followed by another one. -/
theorem next_ne_identifier (h : Covered before m (m' :: rest)) (hm : m.kind = .identifier) :
    m'.kind ≠ .identifier := by
  obtain ⟨h, -⟩ | @⟨pre, front, back, after, l, kind, h, -, hrest⟩ := h
  · exact absurd h.keyword (ne_keyword (by simp [hm]) _)
  · obtain ⟨_, hbody⟩ := h.grammar
    have hkinds : kinds (front ++ m :: back) = kinds front ++ .identifier :: kinds back := by
      simp [kinds, hm]
    obtain ⟨k, more, hback, hk⟩ := hbody.next hkinds
    obtain ⟨x, back, rfl, rfl, -⟩ := List.map_eq_cons_iff.1 hback
    obtain ⟨rfl, -⟩ := List.cons.inj hrest
    exact hk

/-- All lexemes of a statement are claimed. -/
theorem claimed (h : Covered before m rest) :
    Found (before ++ m :: rest) (.claimed before.length) := by
  obtain ⟨h, rfl⟩ | @⟨pre, front, back, after, l, kind, h, rfl, rfl⟩ := h
  · exact ⟨before, m, _, rfl, .statement h rfl (Nat.le_refl _) (Nat.le_add_right _ _)⟩
  · refine ⟨pre, l, (front ++ m :: back) ++ after, by simp, .statement h rfl ?_ ?_⟩
    · simp
    · simp only [List.length_append, List.length_cons]
      omega

end Covered

/-- **A token is covered** if a statement begins at or before it, and does not end before it. -/
theorem covered_of_isStatement {pre body after before rest : List Lexeme} {l m : Lexeme}
    {kind : StatementKind} (h : IsStatement pre l kind body)
    (hls : before ++ m :: rest = pre ++ l :: (body ++ after)) (hfrom : pre.length ≤ before.length)
    (hto : before.length ≤ pre.length + body.length) : Covered before m rest := by
  obtain ⟨front, rfl, hfront⟩ : ∃ front, before = pre ++ front ∧
      front ++ m :: rest = l :: (body ++ after) := by
    rcases List.append_eq_append_iff.1 hls with ⟨more, rfl, hmore⟩ | ⟨front, hbefore, hfront⟩
    · rw [List.length_append] at hfrom
      obtain rfl : more = [] := List.eq_nil_of_length_eq_zero (by omega)
      exact ⟨[], by simp, hmore⟩
    · exact ⟨front, hbefore, hfront.symm⟩
  rcases front with - | ⟨x, front⟩
  · obtain ⟨rfl, rfl⟩ := List.cons.inj hfront
    exact .keyword (by simpa using h) rfl
  · obtain ⟨rfl, htail⟩ := List.cons.inj hfront
    simp only [List.length_append, List.length_cons] at hto
    rcases List.append_eq_append_iff.1 htail with ⟨back, rfl, hback⟩ | ⟨more, rfl, -⟩
    · rcases back with - | ⟨y, back⟩
      · rw [List.append_nil] at hto
        omega
      · obtain ⟨rfl, rfl⟩ := List.cons.inj hback
        exact .part h rfl rfl
    · rw [List.length_append] at hto
      omega

theorem IsDeclaration.isName {before after : List Lexeme} {l name : Lexeme}
    (h : IsDeclaration before l name after) : name.kind = .identifier := by
  cases h <;> assumption

/-- **What a claimed lexeme is**: part of a statement, or else the name of a declaration or of a
type parameter. -/
theorem Found.claimed_cases {before rest : List Lexeme} {m : Lexeme}
    (h : Found (before ++ m :: rest) (.claimed before.length)) :
    Covered before m rest ∨ m.kind = .identifier ∧
      (Found (before ++ m :: rest) (.declared m.text) ∨
        Found (before ++ m :: rest) (.parameter m.text)) := by
  obtain ⟨pre, l, more, hls, hfinds⟩ := h
  cases hfinds with
  | statement h hrest hfrom hto =>
    exact .inl (covered_of_isStatement h (hrest ▸ hls) hfrom hto)
  | @declaration name after _ h hrest hm =>
    have hposition : before.length = pre.length + 1 := by simpa using hm
    have hsplit : before ++ m :: rest = (pre ++ [l]) ++ name :: after := by rw [hls, hrest]; simp
    obtain ⟨-, heq⟩ := List.append_inj hsplit (by simpa using hposition)
    obtain ⟨rfl, -⟩ := List.cons.inj heq
    exact .inr ⟨h.isName, .inl ⟨pre, l, more, hls, .declaration h hrest (.inr rfl)⟩⟩
  | @parameter between after name _ h hrest hm =>
    have hposition : before.length = pre.length + 1 + between.length := by simpa using hm
    have hsplit : before ++ m :: rest = (pre ++ l :: between) ++ name :: after := by
      rw [hls, hrest]; simp
    obtain ⟨-, heq⟩ := List.append_inj hsplit (by simp; omega)
    obtain ⟨rfl, -⟩ := List.cons.inj heq
    exact .inr ⟨h.isName, .inr ⟨pre, l, more, hls, .parameter h hrest (.inr rfl)⟩⟩

/-! ### Stretches free of statements -/

/-- Whether no statement covers any lexeme of a stretch, given the lexemes that stand before it and
behind it. -/
def Outside (before stretch after : List Lexeme) : Prop :=
  ∀ pre m more, stretch = pre ++ m :: more → ¬ Covered (before ++ pre) m (more ++ after)

section

variable {before stretch after rest : List Lexeme} {m : Lexeme}

theorem outside_nil : Outside before [] after := by
  rintro pre m more h
  simp at h

/-- A stretch is outside the statements if its head and the rest are. -/
theorem outside_cons_iff :
    Outside before (m :: stretch) after ↔
      ¬ Covered before m (stretch ++ after) ∧ Outside (before ++ [m]) stretch after := by
  constructor
  · intro h
    refine ⟨by simpa using h [] m stretch rfl, fun pre x more hstretch ↦ ?_⟩
    simpa using h (m :: pre) x more (by rw [hstretch, List.cons_append])
  · rintro ⟨hfirst, h⟩ pre x more hstretch
    rcases List.cons_eq_append_iff.1 hstretch with ⟨rfl, hnil⟩ | ⟨pre, rfl, hpre⟩
    · obtain ⟨rfl, rfl⟩ := List.cons.inj hnil
      simpa using hfirst
    · simpa using h pre x more hpre

/-- A stretch is outside the statements if both of its parts are. -/
theorem outside_append_iff {more : List Lexeme} :
    Outside before (stretch ++ more) after ↔
      Outside before stretch (more ++ after) ∧ Outside (before ++ stretch) more after := by
  induction stretch generalizing before with
  | nil => simp [outside_nil]
  | cons m stretch ih =>
    rw [List.cons_append, outside_cons_iff, outside_cons_iff, ih, List.append_assoc, and_assoc,
      List.append_assoc, List.singleton_append]

/-- Behind a lexeme that no statement covers, statements begin with a keyword. -/
theorem outside_ahead (h : ¬ Covered before m (stretch ++ after))
    (hstretch : ∀ x ∈ stretch, ∀ kind : StatementKind, x.kind ≠ kind.keyword) :
    Outside before (m :: stretch) after := by
  induction stretch generalizing before m with
  | nil => exact outside_cons_iff.2 ⟨h, outside_nil⟩
  | cons x stretch ih =>
    obtain ⟨hx, hstretch⟩ := List.forall_mem_cons.1 hstretch
    exact outside_cons_iff.2 ⟨h, ih (fun hcovered ↦ h (hcovered.pred hx)) hstretch⟩

/-- Before a lexeme that no statement covers, statements end with a semicolon. -/
theorem outside_behind (h : ¬ Covered (before ++ stretch) m rest)
    (hstretch : ∀ x ∈ stretch, x.kind ≠ .semicolon) : Outside before stretch (m :: rest) := by
  induction stretch generalizing before with
  | nil => exact outside_nil
  | cons x stretch ih =>
    obtain ⟨hx, hstretch⟩ := List.forall_mem_cons.1 hstretch
    have hnext : Outside (before ++ [x]) stretch (m :: rest) := ih (by simpa using h) hstretch
    refine outside_cons_iff.2 ⟨fun hcovered ↦ ?_, hnext⟩
    rcases stretch with - | ⟨y, stretch⟩
    · exact h (hcovered.succ hx)
    · exact (outside_cons_iff.1 hnext).1 (hcovered.succ hx)

/-- **Around a lexeme that no statement covers**, nothing is covered as far as there is no semicolon
before it and no keyword behind it. -/
theorem outside_of_not_covered {behind ahead : List Lexeme}
    (h : ¬ Covered (before ++ behind) m (ahead ++ after))
    (hbehind : ∀ x ∈ behind, x.kind ≠ .semicolon)
    (hahead : ∀ x ∈ ahead, ∀ kind : StatementKind, x.kind ≠ kind.keyword) :
    Outside before (behind ++ m :: ahead) after :=
  outside_append_iff.2 ⟨outside_behind h hbehind, outside_ahead h hahead⟩

end

end JavaDeps.Java
