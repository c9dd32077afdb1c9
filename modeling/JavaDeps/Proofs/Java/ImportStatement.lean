import JavaDeps.Java.Scan
import Mathlib.Data.List.Basic

/-!
# Import statements are read

**An import outside all braces of an accepted source is never overlooked**, whatever stands before
it: no statement reaches over another one's keyword, and the reading loses no brace. It brings its
target into the facts of the file.

A source is taken by its lexemes, so white space and comments inside a statement do not matter.
-/

namespace JavaDeps.Java

/-! ### Statements as tokens -/

/-- A lexeme without its place: its kind and its text, which is all that the meaning of a statement
depends on. -/
def Lexeme.token (l : Lexeme) : TokenKind × String := (l.kind, l.text)

/-- The tokens of the segments that follow a first one. -/
def memberTokens (names : List String) : List (TokenKind × String) :=
  names.flatMap fun name ↦ [(.dot, "."), (.identifier, name)]

/-- The tokens of a dotted name. -/
def nameTokens : List String → List (TokenKind × String)
  | [] => []
  | name :: names => (.identifier, name) :: memberTokens names

/-- The tokens at the end of a statement. -/
def endTokens (wildcard : Bool) : List (TokenKind × String) :=
  (if wildcard then [(.dot, "."), (.star, "*")] else []) ++ [(.semicolon, ";")]

/-- The tokens of an import after its keyword. -/
def Import.bodyTokens (i : Import) : List (TokenKind × String) :=
  (if i.isStatic then [(.staticWord, "static")] else []) ++
    (nameTokens i.path.segments ++ endTokens i.path.wildcard)

/-- The tokens of an import. -/
def Import.tokens (i : Import) : List (TokenKind × String) :=
  (.importWord, "import") :: i.bodyTokens

/-- The number of braces that are open after some lexemes, if `depth` were open before. -/
def braceDepth (depth : Nat) : List Lexeme → Nat
  | [] => depth
  | l :: rest =>
    match l.kind with
    | .openBrace => braceDepth (depth + 1) rest
    | .closeBrace => braceDepth (depth - 1) rest
    | _ => braceDepth depth rest

/-- Whether a source holds an import outside all braces: its tokens stand there in a row, with
anything between them that makes no token. -/
def HoldsImport (source : String) (i : Import) : Prop :=
  ∃ before statement after, lexemes source = .ok (before ++ (statement ++ after)) ∧
    braceDepth 0 before = 0 ∧ statement.map Lexeme.token = i.tokens

/-! ### What a statement is made of -/

/-- The kinds of token in a statement after its keyword. -/
def TokenKind.inStatement (kind : TokenKind) : Prop :=
  kind = .identifier ∨ kind = .dot ∨ kind = .star ∨ kind = .semicolon ∨ kind = .staticWord

/-- What is read as the rest of a name may stand in a statement, token by token. -/
theorem readNameAfter_inStatement {segments : List String} {used n : Nat} {ls : List Lexeme}
    {path : NamePath} (h : readNameAfter segments used ls = .ok (path, n)) :
    ∃ k, n = used + k ∧ ∀ l ∈ ls.take k, l.kind.inStatement := by
  fun_induction readNameAfter segments used ls with
  | case2 segments used l rest hsemicolon =>
    obtain ⟨-, rfl⟩ := Prod.mk.inj (Except.ok.inj h)
    exact ⟨1, rfl, by simp [TokenKind.inStatement, hsemicolon]⟩
  | case5 segments used l hsemicolon hdot s more hname ih =>
    obtain ⟨k, rfl, hk⟩ := ih h
    refine ⟨k + 2, by omega, ?_⟩
    simp only [List.take_succ_cons, List.forall_mem_cons]
    exact ⟨.inr (.inl (not_not.1 hdot)), .inl hname, hk⟩
  | case8 segments used l hsemicolon hdot s hname hstar e tail hend =>
    obtain ⟨-, rfl⟩ := Prod.mk.inj (Except.ok.inj h)
    have hdot : l.kind = .dot := not_not.1 hdot
    have hstar : s.kind = .star := not_not.1 hstar
    exact ⟨3, rfl, by simp [TokenKind.inStatement, hdot, hstar, hend]⟩
  | _ => cases h

/-- What is read as a name may stand in a statement, token by token. -/
theorem readName_inStatement {ls : List Lexeme} {path : NamePath} {n : Nat}
    (h : readName ls = .ok (path, n)) : ∀ l ∈ ls.take n, l.kind.inStatement := by
  rcases ls with - | ⟨l, rest⟩
  · cases h
  · rw [readName] at h
    split at h
    · next hname =>
      obtain ⟨k, rfl, hk⟩ := readNameAfter_inStatement h
      rw [Nat.add_comm, List.take_succ_cons, List.forall_mem_cons]
      exact ⟨.inl hname, hk⟩
    · cases h

/-- A statement uses up nothing that could open another one, and no brace. -/
theorem readStatement_inStatement {final n : Nat} {kind : StatementKind} {l : Lexeme}
    {rest : List Lexeme} {s : Statement} (h : readStatement final kind l rest = .ok (s, n)) :
    ∀ m ∈ rest.take n, m.kind.inStatement := by
  cases kind with
  | package =>
    rcases hname : readName rest with e | ⟨path, used⟩
    · rw [readStatement, hname] at h
      cases h
    · simp only [readStatement, hname] at h
      split at h
      · cases h
      · obtain ⟨-, rfl⟩ := Prod.mk.inj (Except.ok.inj h)
        exact readName_inStatement hname
  | importing =>
    by_cases hstatic : (rest.head?.any (·.kind == .staticWord)) = true
    · obtain ⟨s, more, rfl⟩ : ∃ s more, rest = s :: more := by
        rcases rest with - | ⟨s, more⟩
        · cases hstatic
        · exact ⟨s, more, rfl⟩
      have hs : s.kind = .staticWord := by simpa using hstatic
      rcases hname : readName more with e | ⟨path, used⟩
      · simp [readStatement, hs, hname] at h
      · simp only [readStatement, hstatic, if_true, List.drop_succ_cons, List.drop_zero, hname] at h
        obtain ⟨-, rfl⟩ := Prod.mk.inj (Except.ok.inj h)
        rw [Nat.add_comm, List.take_succ_cons, List.forall_mem_cons]
        exact ⟨by simp [TokenKind.inStatement, hs], readName_inStatement hname⟩
    · rcases hname : readName rest with e | ⟨path, used⟩
      · simp [readStatement, hstatic, hname] at h
      · simp only [readStatement, hstatic, Bool.false_eq_true, if_false, List.drop_zero, hname] at h
        obtain ⟨-, rfl⟩ := Prod.mk.inj (Except.ok.inj h)
        rw [Nat.zero_add]
        exact readName_inStatement hname

/-! ### Reading up to an import -/

/-- **All that one step of an accepted reading can be.** -/
theorem outlineFrom_cons {final depth : Nat} {before rest : List Lexeme} {o o' : Outline}
    {l : Lexeme} (h : outlineFrom final before depth o (l :: rest) = .ok o') :
    (l.kind = .openBrace ∧ outlineFrom final (l :: before) (depth + 1) o rest = .ok o') ∨
    (l.kind = .closeBrace ∧ ∃ outer, depth = outer + 1 ∧
      outlineFrom final (l :: before) outer o rest = .ok o') ∨
    (l.kind ≠ .openBrace ∧ l.kind ≠ .closeBrace ∧
      ∃ kind s used, statementKind? depth l.kind = some kind ∧
        readStatement final kind l rest = .ok (s, used) ∧
        outlineFrom final ((rest.take used).reverse ++ l :: before) depth
          ((o.state s).claim before.length (used + 1)) (rest.drop used) = .ok o') ∨
    (l.kind ≠ .openBrace ∧ l.kind ≠ .closeBrace ∧ statementKind? depth l.kind = none ∧
      outlineFrom final (l :: before) depth (o.note (depth == 0) before l rest) rest = .ok o') := by
  rw [outlineFrom.eq_def] at h
  dsimp only at h
  split at h
  · next hkind => exact .inl ⟨hkind, h⟩
  · cases h
  · next outer hkind => exact .inr (.inl ⟨hkind, outer, rfl, h⟩)
  · next depth _ _ hopen hzero hsucc =>
    have hclose : l.kind ≠ .closeBrace := fun hkind ↦ by
      cases depth with
      | zero => exact hzero hkind rfl
      | succ outer => exact hsucc outer hkind rfl
    split at h
    · next kind hkind =>
      split at h
      · cases h
      · next s used hread =>
        exact .inr (.inr (.inl ⟨hopen, hclose, kind, s, used, hkind, hread, h⟩))
    · next hkind => exact .inr (.inr (.inr ⟨hopen, hclose, hkind, h⟩))

/-- The depth of braces is counted on through a second stretch. -/
theorem braceDepth_append (depth : Nat) (ls rest : List Lexeme) :
    braceDepth depth (ls ++ rest) = braceDepth (braceDepth depth ls) rest := by
  induction ls generalizing depth with
  | nil => rfl
  | cons l ls ih =>
    rw [List.cons_append, braceDepth, braceDepth]
    split <;> exact ih _

/-- A token that is no brace leaves the depth alone. -/
theorem braceDepth_cons_of_ne {depth : Nat} {l : Lexeme} (rest : List Lexeme)
    (hopen : l.kind ≠ .openBrace) (hclose : l.kind ≠ .closeBrace) :
    braceDepth depth (l :: rest) = braceDepth depth rest := by
  rw [braceDepth]
  split
  · next h => exact absurd h hopen
  · next h => exact absurd h hclose
  · rfl

theorem TokenKind.inStatement.ne {kind kind' : TokenKind} (h : kind.inStatement)
    (h' : ¬ kind'.inStatement) : kind ≠ kind' := by
  rintro rfl
  exact h' h

/-- Within a statement the depth of braces stays the same. -/
theorem braceDepth_of_inStatement {depth : Nat} {ls : List Lexeme}
    (h : ∀ l ∈ ls, l.kind.inStatement) : braceDepth depth ls = depth := by
  induction ls with
  | nil => rfl
  | cons l ls ih =>
    rw [List.forall_mem_cons] at h
    rw [braceDepth_cons_of_ne ls (h.1.ne (by simp [TokenKind.inStatement]))
      (h.1.ne (by simp [TokenKind.inStatement])), ih h.2]

/-- An accepted reading comes by every `import` that no brace encloses. -/
theorem outlineFrom_reaches {final depth : Nat} {before ls rest : List Lexeme} {o o' : Outline}
    {l : Lexeme} (h : outlineFrom final before depth o (ls ++ l :: rest) = .ok o')
    (hl : l.kind = .importWord) (hdepth : braceDepth depth ls = 0) :
    ∃ before' o₁, outlineFrom final before' 0 o₁ (l :: rest) = .ok o' := by
  -- a statement takes several of the lexemes in front, so the recursion is on their number
  match ls with
  | [] => exact ⟨before, o, by rwa [← show depth = 0 from hdepth]⟩
  | m :: ls =>
    rw [List.cons_append] at h
    rcases outlineFrom_cons h with ⟨hm, hrest⟩ | ⟨hm, outer, rfl, hrest⟩ |
      ⟨hopen, hclose, kind, s, used, -, hread, hrest⟩ | ⟨hopen, hclose, -, hrest⟩
    · exact outlineFrom_reaches hrest hl (by simpa [braceDepth, hm] using hdepth)
    · exact outlineFrom_reaches hrest hl (by simpa [braceDepth, hm] using hdepth)
    · -- the statement ends before `l`, because `l` could be part of no statement
      have hparts := readStatement_inStatement hread
      have hused : used ≤ ls.length := by
        by_contra hlong
        have hmem : l ∈ (ls ++ l :: rest).take used := by
          rw [List.take_append, List.take_of_length_le (by omega)]
          obtain ⟨k, hk⟩ : ∃ k, used - ls.length = k + 1 := ⟨used - ls.length - 1, by omega⟩
          simp [hk]
        exact (hparts l hmem).ne (by simp [TokenKind.inStatement]) hl
      rw [List.take_append_of_le_length hused] at hparts
      rw [List.drop_append_of_le_length hused] at hrest
      refine outlineFrom_reaches hrest hl ?_
      rw [braceDepth_cons_of_ne ls hopen hclose, ← List.take_append_drop used ls,
        braceDepth_append, braceDepth_of_inStatement hparts] at hdepth
      exact hdepth
    · rw [braceDepth_cons_of_ne ls hopen hclose] at hdepth
      exact outlineFrom_reaches hrest hl hdepth
termination_by ls.length
decreasing_by all_goals simp only [List.length_cons, List.length_drop]; omega

/-- What is noted of a lexeme leaves the imports as they are. -/
theorem Outline.imports_note (o : Outline) (topLevel : Bool) (before : List Lexeme) (l : Lexeme)
    (rest : List Lexeme) : (o.note topLevel before l rest).imports = o.imports := by
  rw [note]
  split
  · rw [declare.eq_def]
    split
    · rfl
    · split <;> rfl
  · split <;> rfl

/-- Reading on forgets no import. -/
theorem imports_subset_of_outlineFrom {final depth : Nat} {before ls : List Lexeme}
    {o o' : Outline} (h : outlineFrom final before depth o ls = .ok o') :
    o.imports ⊆ o'.imports := by
  match ls with
  | [] =>
    rw [outlineFrom] at h
    split at h
    · rw [Except.ok.inj h]
      exact List.Subset.refl _
    · cases h
  | l :: rest =>
    rcases outlineFrom_cons h with ⟨-, h⟩ | ⟨-, outer, -, h⟩ | ⟨-, -, kind, s, used, -, -, h⟩ |
      ⟨-, -, -, h⟩
    · exact imports_subset_of_outlineFrom h
    · exact imports_subset_of_outlineFrom h
    · refine List.Subset.trans ?_ (imports_subset_of_outlineFrom h)
      cases s with
      | package segments => exact List.Subset.refl _
      | importing i => exact List.subset_append_left _ _
    · refine List.Subset.trans ?_ (imports_subset_of_outlineFrom h)
      rw [o.imports_note]
      exact List.Subset.refl _
termination_by ls.length
decreasing_by all_goals simp only [List.length_cons, List.length_drop]; omega

/-! ### Reading an import -/

/-- The rest of a name is read as it is spelled, up to the semicolon. -/
theorem readNameAfter_spelled {segments names : List String} {used : Nat} {wildcard : Bool}
    {ls : List Lexeme} (after : List Lexeme)
    (hls : ls.map Lexeme.token = memberTokens names ++ endTokens wildcard) :
    readNameAfter segments used (ls ++ after) =
      .ok (⟨segments ++ names, wildcard⟩, used + ls.length) := by
  induction names generalizing segments used ls with
  | nil =>
    cases wildcard with
    | false =>
      obtain ⟨e, rest, rfl, he, hrest⟩ := List.map_eq_cons_iff.1 hls
      obtain rfl := List.map_eq_nil_iff.1 hrest
      have he : e.kind = .semicolon := congrArg Prod.fst he
      rw [List.singleton_append, readNameAfter.eq_def]
      simp [he]
    | true =>
      obtain ⟨d, rest, rfl, hd, hrest⟩ := List.map_eq_cons_iff.1 hls
      obtain ⟨s, rest, rfl, hs, hrest⟩ := List.map_eq_cons_iff.1 hrest
      obtain ⟨e, rest, rfl, he, hrest⟩ := List.map_eq_cons_iff.1 hrest
      obtain rfl := List.map_eq_nil_iff.1 hrest
      have hd : d.kind = .dot := congrArg Prod.fst hd
      have hs : s.kind = .star := congrArg Prod.fst hs
      have he : e.kind = .semicolon := congrArg Prod.fst he
      simp [readNameAfter, hd, hs, he]
  | cons name names ih =>
    obtain ⟨d, rest, rfl, hd, hrest⟩ := List.map_eq_cons_iff.1 hls
    obtain ⟨s, rest, rfl, hs, hrest'⟩ := List.map_eq_cons_iff.1 hrest
    have hd : d.kind = .dot := congrArg Prod.fst hd
    obtain ⟨hkind, rfl⟩ : s.kind = .identifier ∧ s.text = name := Prod.mk.inj hs
    rw [List.cons_append, List.cons_append, readNameAfter.eq_def]
    simp only [hd, hkind, reduceCtorEq, if_false, ne_eq, not_true_eq_false, if_true]
    rw [ih hrest', List.append_assoc, List.singleton_append, List.length_cons, List.length_cons,
      Nat.add_assoc, Nat.add_comm 2]

/-- **A name is read as it is spelled**, with its wildcard, and all of its tokens are used. -/
theorem readName_spelled {names : List String} (hnames : names ≠ []) {wildcard : Bool}
    {ls : List Lexeme} (after : List Lexeme)
    (hls : ls.map Lexeme.token = nameTokens names ++ endTokens wildcard) :
    readName (ls ++ after) = .ok (⟨names, wildcard⟩, ls.length) := by
  obtain ⟨name, names, rfl⟩ := List.exists_cons_of_ne_nil hnames
  obtain ⟨s, rest, rfl, hs, hrest⟩ := List.map_eq_cons_iff.1 hls
  obtain ⟨hkind, rfl⟩ : s.kind = .identifier ∧ s.text = name := Prod.mk.inj hs
  rw [List.cons_append, readName, if_pos hkind, readNameAfter_spelled after hrest, List.length_cons,
    Nat.add_comm]
  rfl

/-- **An import reads as what it spells.** -/
theorem readStatement_spelled {i : Import} (hi : i.path.segments ≠ []) (final : Nat) (l : Lexeme)
    {ls : List Lexeme} (after : List Lexeme) (hls : ls.map Lexeme.token = i.bodyTokens) :
    readStatement final .importing l (ls ++ after) = .ok (.importing i, ls.length) := by
  obtain ⟨isStatic, names, wildcard⟩ := i
  cases isStatic with
  | true =>
    obtain ⟨s, rest, rfl, hs, hrest⟩ := List.map_eq_cons_iff.1 hls
    have hs : s.kind = .staticWord := congrArg Prod.fst hs
    simp [readStatement, hs, readName_spelled hi after hrest, Nat.add_comm]
  | false =>
    have hfirst : ((ls ++ after).head?.any (·.kind == .staticWord)) = false := by
      obtain ⟨name, names, rfl⟩ := List.exists_cons_of_ne_nil hi
      obtain ⟨s, rest, rfl, hs, -⟩ := List.map_eq_cons_iff.1 hls
      have hs : s.kind = .identifier := congrArg Prod.fst hs
      simp [hs]
    simp only [readStatement, hfirst, Bool.false_eq_true, if_false, List.drop_zero,
      readName_spelled hi after hls, Nat.zero_add]

/-- An import outside all braces of accepted lexemes is among those that the outline lists. -/
theorem mem_imports_of_outline {before statement after : List Lexeme} {o : Outline} {i : Import}
    (h : outline (before ++ (statement ++ after)) = .ok o) (hdepth : braceDepth 0 before = 0)
    (hi : i.path.segments ≠ []) (hstatement : statement.map Lexeme.token = i.tokens) :
    i ∈ o.imports := by
  obtain ⟨l, ls, rfl, hl, hls⟩ := List.map_eq_cons_iff.1 hstatement
  have hl : l.kind = .importWord := congrArg Prod.fst hl
  obtain ⟨before', o₁, h₁⟩ := outlineFrom_reaches h hl hdepth
  rw [outlineFrom.eq_def, List.append_eq] at h₁
  simp only [hl, statementKind?, if_true, readStatement_spelled hi _ l after hls] at h₁
  refine imports_subset_of_outlineFrom h₁ ?_
  exact List.mem_append_right _ (List.mem_singleton_self i)

/-- **An import outside all braces of an accepted source brings its target into the facts.** -/
theorem HoldsImport.mem_facts {source : String} {facts : Facts} {i : Import}
    (himport : HoldsImport source i) (hi : i.path.segments ≠ []) (h : scan source = .ok facts) :
    (∀ name, i.type? = some name → name ∈ facts.imports) ∧
      ∀ name, i.package? = some name → name ∈ facts.wildcardImports := by
  obtain ⟨before, statement, after, hlexemes, hdepth, hstatement⟩ := himport
  rw [scan, hlexemes] at h
  rcases houtline : outline (before ++ (statement ++ after)) with e | o
  · simp [scanLexemes, houtline, bind, Except.bind, Except.map] at h
  · have hmem := mem_imports_of_outline houtline hdepth hi hstatement
    have hfacts :
        o.facts (referencesFrom [] (o.mark (before ++ (statement ++ after)))) = facts := by
      simpa [scanLexemes, houtline, bind, Except.bind, Except.map] using h
    subst hfacts
    exact ⟨fun name hname ↦ SortedSet.mem_ofList.2 (List.mem_filterMap.2 ⟨i, hmem, hname⟩),
      fun name hname ↦ SortedSet.mem_ofList.2 (List.mem_filterMap.2 ⟨i, hmem, hname⟩)⟩

end JavaDeps.Java
