import JavaDeps.Proofs.Java.Findings
import JavaDeps.Proofs.Java.Positions

/-!
# Reading by position goes well

A walk by position finds at every step what the recursion on the lexemes ahead finds: the lexemes
behind it are the ones that were read, and those from the position on are the ones ahead. **So no
walk goes wrong, whatever the lexemes**: names, statements, declarations and lists of type
parameters are found where they are, and the first reading comes to the outline (`outlineAt_eq`).
-/

namespace JavaDeps.Java

/-! ### Walks -/

section

variable {σ ρ : Type} {n i j : Nat} {step : Nat → σ → Walked (WalkStep σ ρ)} {s t : σ} {result : ρ}

theorem walk_of_done (h : step i s = .ok (.done result)) : walk n step i s = .ok result := by
  rw [walk, h]

theorem walk_of_move (h : step i s = .ok (.move j t)) (hij : i < j) (hj : j ≤ n) :
    walk n step i s = walk n step j t := by
  rw [walk, h]
  simp only [if_pos hij, if_pos hj]

/-- The rest of a walk after a step. -/
def resume (n : Nat) (step : Nat → σ → Walked (WalkStep σ ρ)) : WalkStep σ ρ → Walked ρ
  | .move j t => walk n step j t
  | .done result => .ok result

/-- A walk is its first step and what comes after it, as long as the step moves forward. -/
theorem walk_eq_resume {next : WalkStep σ ρ} (h : step i s = .ok next)
    (hnext : ∀ j t, next = .move j t → i < j ∧ j ≤ n) :
    walk n step i s = resume n step next := by
  cases next with
  | move j t =>
    obtain ⟨hij, hj⟩ := hnext j t rfl
    exact walk_of_move h hij hj
  | done result => exact walk_of_done h

end

@[simp] theorem walked_bind {α β : Type} (a : α) (f : α → Walked β) : (.ok a >>= f) = f a := rfl

@[simp] theorem walked_pure {α : Type} (a : α) : (pure a : Walked α) = .ok a := rfl

/-! ### What stands at a position -/

/-- A position moves on. -/
theorem ahead_cons {α : Type} {all before rest : List α} {a : α} :
    all = (a :: before).reverse ++ rest ↔ all = before.reverse ++ a :: rest := by
  rw [List.reverse_cons, List.append_assoc, List.singleton_append]

section

variable {ls before rest : List Lexeme} {l : Lexeme}

theorem getElem?_ahead (hls : ls = before.reverse ++ rest) (k : Nat) :
    ls[before.length + k]? = rest[k]? := by
  rw [hls, List.getElem?_append_right (by simp)]
  simp

theorem kindAt?_ahead (hls : ls = before.reverse ++ rest) (k : Nat) :
    kindAt? ls (before.length + k) = rest[k]?.map (·.kind) := by
  rw [kindAt?, getElem?_ahead hls]

theorem lookAt_ahead (hls : ls = before.reverse ++ l :: rest) :
    lookAt ls before.length = .ok l := by
  have hl : ls[before.length]? = some l := getElem?_ahead hls 0
  rw [lookAt, hl]

/-- The kind found behind a position is that of the last lexeme read. -/
theorem kindBefore?_eq (hls : ls = before.reverse ++ rest) :
    kindBefore? ls before.length = before.head?.map (·.kind) := by
  cases before with
  | nil => rfl
  | cons previous before =>
    have hprevious : ls = before.reverse ++ previous :: rest := ahead_cons.1 hls
    exact kindAt?_ahead hprevious 0

theorem length_ahead (hls : ls = before.reverse ++ rest) :
    before.length + rest.length = ls.length := by
  rw [hls, List.length_append, List.length_reverse]

theorem lt_length_ahead (hls : ls = before.reverse ++ l :: rest) : before.length < ls.length := by
  rw [← length_ahead hls, List.length_cons]
  omega

theorem claimable_of_le {start stop : Nat} (hstart : start ≤ stop) (hstop : stop ≤ ls.length) :
    claimable ls start stop = .ok () :=
  if_pos ⟨hstart, hstop⟩

theorem drop_ahead (hls : ls = before.reverse ++ rest) : ls.drop before.length = rest := by
  rw [hls, ← List.length_reverse, List.drop_left]

theorem lt_length_of_kindAt? {i : Nat} {kind : TokenKind} (h : kindAt? ls i = some kind) :
    i < ls.length := by
  obtain ⟨l, hl, -⟩ := Option.map_eq_some_iff.1 h
  exact (List.getElem?_eq_some_iff.1 hl).1

theorem kindBefore?_beq (hls : ls = before.reverse ++ rest) (kind : TokenKind) :
    (kindBefore? ls before.length == some kind) = endsWithKind before kind := by
  rw [kindBefore?_eq hls]
  cases before <;> rfl

theorem kindAt?_beq (hls : ls = before.reverse ++ rest) (k : Nat) (kind : TokenKind) :
    (kindAt? ls (before.length + k) == some kind) = rest[k]?.any (·.kind == kind) := by
  rw [kindAt?_ahead hls]
  cases rest[k]? <;> rfl

theorem kindBefore?_cons (hls : ls = before.reverse ++ l :: rest) :
    kindBefore? ls (l :: before).length = some l.kind :=
  kindAt?_ahead hls 0

/-- A step over one lexeme is taken. -/
theorem walk_next {σ ρ : Type} {step : Nat → σ → Walked (WalkStep σ ρ)} {s t : σ}
    (hls : ls = before.reverse ++ l :: rest)
    (h : step before.length s = .ok (.move (before.length + 1) t)) :
    walk ls.length step before.length s = walk ls.length step (l :: before).length t :=
  walk_of_move h (Nat.lt_succ_self _) (lt_length_ahead hls)

/-! ### Names -/

/-- Whether an answer by position says what an answer on the lexemes ahead says. -/
def NameAgrees (ls : List Lexeme) (start : Nat) :
    Except Nat (NamePath × Nat) → Except (List Lexeme) (NamePath × Nat) → Prop
  | .ok (path, next), .ok (path', used) => path = path' ∧ next = start + used
  | .error wrong, .error ahead => ls.drop wrong = ahead
  | _, _ => False

section

variable {i : Nat} {path : NamePath}

theorem afterSegment_semicolon (h : kindAt? ls i = some .semicolon) :
    afterSegment ls i path = .done (.ok (path, i + 1)) := by
  rw [afterSegment, h]

theorem afterSegment_dot (h : kindAt? ls i = some .dot) (hpath : path.wildcard = false) :
    afterSegment ls i path = .move (i + 1) path := by
  rw [afterSegment, h]
  exact if_neg (by rw [hpath]; exact Bool.false_ne_true)

/-- Behind a segment, what is neither a semicolon nor a dot that may go on is a fault, at that
place. -/
theorem afterSegment_wrong (hsemicolon : kindAt? ls i ≠ some .semicolon)
    (hdot : path.wildcard = false → kindAt? ls i ≠ some .dot) :
    afterSegment ls i path = .done (.error i) := by
  rw [afterSegment]
  split
  · next h => exact if_pos (by_contra fun hpath ↦ hdot (Bool.eq_false_iff.2 hpath) h)
  · next h => exact absurd h hsemicolon
  · rfl

/-- Reading moves on past the dot alone, and not beyond the list. -/
theorem moves_of_afterSegment {j : Nat} {path' : NamePath}
    (h : afterSegment ls i path = .move j path') : i < j ∧ j ≤ ls.length := by
  rw [afterSegment] at h
  split at h
  · next hdot =>
    split at h
    · cases h
    · obtain ⟨rfl, -⟩ := WalkStep.move.inj h
      exact ⟨Nat.lt_succ_self i, lt_length_of_kindAt? hdot⟩
  · cases h
  · cases h

theorem nameStep_segment {l : Lexeme} (hl : ls[i]? = some l) (hkind : l.kind = .identifier)
    (hpath : path.wildcard = false) : nameStep ls i path =
      .ok (afterSegment ls (i + 1) { path with segments := path.segments ++ [l.text] }) := by
  rw [nameStep, hl]
  exact if_pos ⟨hkind, hpath⟩

theorem nameStep_star {l : Lexeme} (hl : ls[i]? = some l) (hkind : l.kind = .star)
    (hpath : path.segments ≠ []) : nameStep ls i path =
      .ok (afterSegment ls (i + 1) { path with wildcard := true }) := by
  rw [nameStep, hl]
  simp [hkind, hpath]

/-- Anything that is neither an identifier nor a star behind a segment is a fault. -/
theorem nameStep_wrong (hsegment : kindAt? ls i ≠ some .identifier)
    (hstar : path.segments ≠ [] → kindAt? ls i ≠ some .star) :
    nameStep ls i path = .ok (.done (.error i)) := by
  rw [nameStep]
  split
  · rfl
  · next l hl =>
    rw [kindAt?, hl] at hsegment hstar
    have hsegment : l.kind ≠ .identifier := fun h ↦ hsegment (congrArg some h)
    rw [if_neg fun h ↦ hsegment h.1, if_neg fun h ↦ hstar h.2 (congrArg some h.1)]

/-- Reading a name goes on with what stands behind the segment. -/
theorem walk_nameStep {path' : NamePath}
    (h : nameStep ls i path = .ok (afterSegment ls (i + 1) path')) :
    walk ls.length (nameStep ls) i path =
      resume ls.length (nameStep ls) (afterSegment ls (i + 1) path') :=
  walk_eq_resume h fun _ _ hmove ↦
    ⟨Nat.lt_of_succ_lt (moves_of_afterSegment hmove).1, (moves_of_afterSegment hmove).2⟩

end

/-- Nothing ahead ends a name or goes on with it. -/
theorem resume_afterSegment_wrong (hls : ls = before.reverse ++ rest) {path : NamePath}
    (h : ∀ l ∈ rest.head?, l.kind ≠ .semicolon ∧ (path.wildcard = false → l.kind ≠ .dot)) :
    resume ls.length (nameStep ls) (afterSegment ls before.length path) =
      .ok (.error before.length) := by
  have hkind : kindAt? ls before.length = rest[0]?.map (·.kind) := kindAt?_ahead hls 0
  rw [afterSegment_wrong]
  · rfl
  all_goals
    rw [hkind]
    cases rest <;> simp_all

/-- Nothing ahead is a segment, or a star behind one. -/
theorem walk_nameStep_wrong (hls : ls = before.reverse ++ rest) {path : NamePath}
    (h : ∀ l ∈ rest.head?, l.kind ≠ .identifier ∧ (path.segments ≠ [] → l.kind ≠ .star)) :
    walk ls.length (nameStep ls) before.length path = .ok (.error before.length) := by
  have hkind : kindAt? ls before.length = rest[0]?.map (·.kind) := kindAt?_ahead hls 0
  refine walk_of_done (nameStep_wrong ?_ ?_)
  all_goals
    rw [hkind]
    cases rest <;> simp_all

/-- A dot ahead is followed by the rest of the name. -/
theorem resume_afterSegment_dot (hls : ls = before.reverse ++ l :: rest) (hdot : l.kind = .dot)
    (segments : List String) :
    resume ls.length (nameStep ls) (afterSegment ls before.length ⟨segments, false⟩) =
      walk ls.length (nameStep ls) (l :: before).length ⟨segments, false⟩ := by
  have hkind : kindAt? ls before.length = some l.kind := kindAt?_ahead hls 0
  rw [afterSegment_dot (hkind.trans (congrArg some hdot)) rfl]
  rfl

/-- The walk goes on behind a segment as `readNameAfter` does. -/
theorem resume_afterSegment {start : Nat} (segments : List String) (used : Nat)
    (rest : List Lexeme) :
    segments ≠ [] → ∀ before : List Lexeme, ls = before.reverse ++ rest →
      before.length = start + used →
      ∃ answer, resume ls.length (nameStep ls) (afterSegment ls before.length ⟨segments, false⟩) =
        .ok answer ∧ NameAgrees ls start answer (readNameAfter segments used rest) := by
  fun_induction readNameAfter segments used rest with
  | case1 segments used =>
    intro _ before hls _
    exact ⟨_, resume_afterSegment_wrong hls (by simp), drop_ahead hls⟩
  | case2 segments used l rest hsemicolon =>
    intro _ before hls hlength
    have hkind : kindAt? ls before.length = some l.kind := kindAt?_ahead hls 0
    rw [afterSegment_semicolon (hkind.trans (congrArg some hsemicolon))]
    exact ⟨_, rfl, rfl, by omega⟩
  | case3 segments used l rest hsemicolon hdot =>
    intro _ before hls _
    exact ⟨_, resume_afterSegment_wrong hls (by simp [hsemicolon, hdot]), drop_ahead hls⟩
  | case4 segments used l hsemicolon hdot =>
    intro _ before hls _
    have hls' : ls = (l :: before).reverse ++ [] := ahead_cons.2 hls
    rw [resume_afterSegment_dot hls (not_not.1 hdot)]
    exact ⟨_, walk_nameStep_wrong hls' (by simp), drop_ahead hls'⟩
  | case5 segments used l hsemicolon hdot s more hsegment ih =>
    intro _ before hls hlength
    have hls' : ls = (l :: before).reverse ++ s :: more := ahead_cons.2 hls
    have hls'' : ls = (s :: l :: before).reverse ++ more := ahead_cons.2 hls'
    have hs : ls[(l :: before).length]? = some s := getElem?_ahead hls' 0
    rw [resume_afterSegment_dot hls (not_not.1 hdot),
      walk_nameStep (nameStep_segment hs hsegment rfl)]
    exact ih (by simp) (s :: l :: before) hls'' (by simp only [List.length_cons]; omega)
  | case6 segments used l hsemicolon hdot s more hsegment hstar =>
    intro _ before hls _
    have hls' : ls = (l :: before).reverse ++ s :: more := ahead_cons.2 hls
    rw [resume_afterSegment_dot hls (not_not.1 hdot)]
    exact ⟨_, walk_nameStep_wrong hls' (by simp [hsegment, hstar]), drop_ahead hls'⟩
  | case7 segments used l hsemicolon hdot s hsegment hstar =>
    intro hne before hls _
    have hls' : ls = (l :: before).reverse ++ [s] := ahead_cons.2 hls
    have hls'' : ls = (s :: l :: before).reverse ++ [] := ahead_cons.2 hls'
    have hs : ls[(l :: before).length]? = some s := getElem?_ahead hls' 0
    rw [resume_afterSegment_dot hls (not_not.1 hdot),
      walk_nameStep (nameStep_star hs (not_not.1 hstar) hne)]
    exact ⟨_, resume_afterSegment_wrong hls'' (by simp), drop_ahead hls''⟩
  | case8 segments used l hsemicolon hdot s hsegment hstar e tail hend =>
    intro hne before hls hlength
    have hls' : ls = (l :: before).reverse ++ s :: e :: tail := ahead_cons.2 hls
    have hls'' : ls = (s :: l :: before).reverse ++ e :: tail := ahead_cons.2 hls'
    have hs : ls[(l :: before).length]? = some s := getElem?_ahead hls' 0
    have he : kindAt? ls (s :: l :: before).length = some e.kind := kindAt?_ahead hls'' 0
    rw [resume_afterSegment_dot hls (not_not.1 hdot),
      walk_nameStep (nameStep_star hs (not_not.1 hstar) hne)]
    rw [List.length_cons (a := s)] at he
    rw [afterSegment_semicolon (he.trans (congrArg some hend))]
    exact ⟨_, rfl, rfl, by simp only [List.length_cons]; omega⟩
  | case9 segments used l hsemicolon hdot s hsegment hstar e tail hend =>
    intro hne before hls _
    have hls' : ls = (l :: before).reverse ++ s :: e :: tail := ahead_cons.2 hls
    have hls'' : ls = (s :: l :: before).reverse ++ e :: tail := ahead_cons.2 hls'
    have hs : ls[(l :: before).length]? = some s := getElem?_ahead hls' 0
    rw [resume_afterSegment_dot hls (not_not.1 hdot),
      walk_nameStep (nameStep_star hs (not_not.1 hstar) hne)]
    exact ⟨_, resume_afterSegment_wrong hls'' (by simp [hend]), drop_ahead hls''⟩

/-- **The name at a position is the one ahead**, and no step to it goes wrong. -/
theorem exists_nameAt (hls : ls = before.reverse ++ rest) :
    ∃ answer, nameAt ls before.length = .ok answer ∧
      NameAgrees ls before.length answer (readName rest) := by
  cases rest with
  | nil => exact ⟨_, walk_nameStep_wrong hls (by simp), drop_ahead hls⟩
  | cons l rest =>
    by_cases hl : l.kind = .identifier
    · have hls' : ls = (l :: before).reverse ++ rest := ahead_cons.2 hls
      have hat : ls[before.length]? = some l := getElem?_ahead hls 0
      rw [nameAt, walk_nameStep (nameStep_segment hat hl rfl), readName, if_pos hl]
      exact resume_afterSegment [l.text] 1 rest (List.cons_ne_nil _ _) (l :: before) hls' rfl
    · rw [readName, if_neg hl]
      exact ⟨_, walk_nameStep_wrong hls (by simp [hl]), drop_ahead hls⟩

/-- Both go wrong at the same place, or find the same name. -/
theorem nameAt_cases (hls : ls = before.reverse ++ rest) :
    (∃ wrong, nameAt ls before.length = .ok (.error wrong) ∧
        readName rest = .error (ls.drop wrong)) ∨
      ∃ path used, nameAt ls before.length = .ok (.ok (path, before.length + used)) ∧
        readName rest = .ok (path, used) ∧ used ≤ rest.length := by
  obtain ⟨answer, hanswer, hagrees⟩ := exists_nameAt hls
  rcases answer with wrong | ⟨path, next⟩ <;>
    rcases hread : readName rest with ahead | ⟨path', used⟩ <;> rw [hread] at hagrees
  · obtain rfl : ls.drop wrong = ahead := hagrees
    exact .inl ⟨wrong, hanswer, rfl⟩
  · exact hagrees.elim
  · exact hagrees.elim
  · obtain ⟨rfl, rfl⟩ := hagrees
    exact .inr ⟨path, used, hanswer, rfl, (of_readName hread).1⟩

/-! ### Statements -/

theorem blameAt_eq (wrong : Nat) : blameAt ls wrong = blame (lastOffset ls) (ls.drop wrong) := by
  rw [blameAt, blame, List.head?_drop]
  cases ls[wrong]? <;> rfl

/-- An import is read by position as by the lexemes ahead, from its name on. -/
theorem importAt_eq (hls : ls = before.reverse ++ rest) (isStatic : Bool) {i : Nat}
    (hi : i ≤ before.length) :
    importAt ls isStatic i before.length = .ok (match readName rest with
      | .error ahead => .error (.malformed .importing (blame (lastOffset ls) ahead))
      | .ok (path, used) => .ok (.importing ⟨isStatic, path⟩, before.length + used)) := by
  have hlength := length_ahead hls
  rcases nameAt_cases hls with ⟨wrong, hat, hread⟩ | ⟨path, used, hat, hread, hused⟩
  · rw [importAt, hat, hread, walked_bind]
    dsimp only
    rw [blameAt_eq]
    rfl
  · rw [importAt, hat, hread, walked_bind]
    dsimp only
    rw [claimable_of_le (by omega) (by omega)]
    rfl

/-- **The statement at a position is the one ahead.** What it claims is in range. -/
theorem statementAt_eq (hls : ls = before.reverse ++ l :: rest) (kind : StatementKind) :
    statementAt ls kind before.length =
      .ok ((readStatement (lastOffset ls) kind l rest).map fun (read, used) ↦
        (read, before.length + 1 + used)) := by
  have hls' : ls = (l :: before).reverse ++ rest := ahead_cons.2 hls
  cases kind with
  | package =>
    have hlength := length_ahead hls'
    rw [List.length_cons] at hlength
    rcases nameAt_cases hls' with ⟨wrong, hat, hread⟩ | ⟨path, used, hat, hread, hused⟩
    · rw [List.length_cons] at hat
      rw [statementAt, readStatement, hat, hread, walked_bind]
      dsimp only
      rw [blameAt_eq]
      rfl
    · rw [List.length_cons] at hat
      rw [statementAt, readStatement, hat, hread, walked_bind]
      have hclaim : claimable ls before.length (before.length + 1 + used) = .ok () :=
        claimable_of_le (by omega) (by omega)
      cases hpath : path.wildcard <;> simp [hpath, hclaim, lookAt_ahead hls, Except.map]
  | importing =>
    have hkind : kindAt? ls (before.length + 1) = rest.head?.map (·.kind) := by
      rw [List.head?_eq_getElem?]
      exact kindAt?_ahead hls' 0
    rw [statementAt, readStatement, hkind]
    by_cases hstatic : (rest.head?.any (·.kind == .staticWord)) = true
    · obtain ⟨first, more, rfl⟩ : ∃ first more, rest = first :: more := by
        rcases rest with - | ⟨first, more⟩
        · cases hstatic
        · exact ⟨first, more, rfl⟩
      have hls'' : ls = (first :: l :: before).reverse ++ more := ahead_cons.2 hls'
      have hfirst : first.kind = .staticWord := by simpa using hstatic
      have himport := importAt_eq hls'' true (i := before.length) (by simp; omega)
      simp only [List.length_cons] at himport
      simp only [List.head?_cons, Option.map_some, hfirst, BEq.rfl, if_true, himport,
        Option.any_some, List.drop_succ_cons, List.drop_zero]
      cases readName more with
      | error ahead => rfl
      | ok read =>
        simp only [Except.map, Except.ok.injEq, Prod.mk.injEq, true_and]
        omega
    · have himport := importAt_eq hls' false (i := before.length) (by simp)
      have hnot : (rest.head?.map (·.kind) == some .staticWord) = false := by
        cases rest <;> simp_all
      rw [List.length_cons] at himport
      simp only [hnot, hstatic, Bool.false_eq_true, if_false, himport, List.drop_zero, Nat.zero_add]
      cases readName rest <;> rfl

/-! ### Type parameters -/

/-- Looking behind a `<` stays in range. -/
theorem opensTypeParametersAt_eq (hls : ls = before.reverse ++ rest) :
    opensTypeParametersAt ls before.length = .ok (opensTypeParameters before) := by
  rcases before with - | ⟨previous, before⟩
  · rfl
  have hprevious : lookAt ls before.length = .ok previous :=
    lookAt_ahead (ahead_cons.1 hls)
  rw [opensTypeParametersAt, if_neg (by simp), List.length_cons, Nat.add_sub_cancel, hprevious,
    walked_bind, opensTypeParameters]
  cases previous.kind
  case identifier =>
    by_cases hmodifier : modifiers.contains previous.text = true
    · simp only [hmodifier, if_true, Bool.true_or, walked_pure]
    simp only [hmodifier, Bool.false_eq_true, if_false, Bool.false_or]
    rcases before with - | ⟨earlier, before⟩
    · rfl
    have hearlier : lookAt ls before.length = .ok earlier :=
      lookAt_ahead (ahead_cons.1 (ahead_cons.1 hls))
    rw [if_neg (by simp), List.length_cons, Nat.add_sub_cancel (n := before.length) (m := 2),
      hearlier]
    rfl
  all_goals rfl

/-- Goes on in a list of type parameters as `typeParametersFrom` does: within the list some bracket
is open, so no closing one takes from a depth of zero. -/
theorem walk_typeParameterStep (depth : Nat) (previous : TokenKind) (position : Nat)
    (rest : List Lexeme) :
    ∀ (before : List Lexeme) (found : List (Nat × String)), ls = before.reverse ++ rest →
      position = before.length → kindBefore? ls before.length = some previous → 1 ≤ depth →
        walk ls.length (typeParameterStep ls) before.length (depth, found) =
          .ok (found ++ typeParametersFrom depth previous position rest) := by
  fun_induction typeParametersFrom depth previous position rest with
  | case1 depth previous position =>
    intro before found hls _ _ _
    have hat : ls[before.length]? = none := getElem?_ahead hls 0
    refine walk_of_done ?_
    rw [typeParameterStep, hat, List.append_nil]
  | case2 depth previous position l rest hless ih =>
    intro before found hls hposition _ _
    have hat : ls[before.length]? = some l := getElem?_ahead hls 0
    have hstep : typeParameterStep ls before.length (depth, found) =
        .ok (.move (before.length + 1) (depth + 1, found)) := by
      simp only [typeParameterStep, hat, hless]
    rw [walk_next hls hstep]
    exact ih _ found (ahead_cons.2 hls) (congrArg Nat.succ hposition) (kindBefore?_cons hls)
      (Nat.le_add_left 1 depth)
  | case3 depth previous position l rest hgreater hdepth =>
    intro before found hls _ _ hopen
    have hat : ls[before.length]? = some l := getElem?_ahead hls 0
    obtain rfl : depth = 1 := Nat.le_antisymm hdepth hopen
    refine walk_of_done ?_
    simp only [typeParameterStep, hat, hgreater, List.append_nil]
    rfl
  | case4 depth previous position l rest hgreater hdepth ih =>
    intro before found hls hposition _ _
    have hat : ls[before.length]? = some l := getElem?_ahead hls 0
    obtain ⟨outer, rfl⟩ : ∃ outer, depth = outer + 1 + 1 := ⟨depth - 2, by omega⟩
    have hstep : typeParameterStep ls before.length (outer + 1 + 1, found) =
        .ok (.move (before.length + 1) (outer + 1, found)) := by
      simp only [typeParameterStep, hat, hgreater]
      rfl
    rw [walk_next hls hstep]
    exact ih _ found (ahead_cons.2 hls) (congrArg Nat.succ hposition) (kindBefore?_cons hls)
      (Nat.le_add_left 1 outer)
  | case5 depth previous position l rest hkind
  | case6 depth previous position l rest hkind
  | case7 depth previous position l rest hkind =>
    intro before found hls _ _ _
    have hat : ls[before.length]? = some l := getElem?_ahead hls 0
    refine walk_of_done ?_
    simp only [typeParameterStep, hat, hkind, List.append_nil]
  | case8 depth previous position l rest hname more hfirst ih =>
    rintro before found hls rfl hprevious hdepth
    have hat : ls[before.length]? = some l := getElem?_ahead hls 0
    have hstep : typeParameterStep ls before.length (depth, found) =
        .ok (.move (before.length + 1) (depth, found ++ [(before.length, l.text)])) := by
      have hclaim : claimable ls before.length (before.length + 1) = .ok () :=
        claimable_of_le (Nat.le_succ _) (lt_length_ahead hls)
      simp only [typeParameterStep, hat, hname, hprevious, Option.some.injEq, hfirst, and_self,
        if_true, hclaim]
      rfl
    rw [walk_next hls hstep, ih (l :: before) _ (ahead_cons.2 hls) rfl (kindBefore?_cons hls)
      hdepth, List.append_assoc]
    rfl
  | case9 depth previous position l rest hname more hfirst ih =>
    intro before found hls hposition hprevious hdepth
    have hat : ls[before.length]? = some l := getElem?_ahead hls 0
    have hstep : typeParameterStep ls before.length (depth, found) =
        .ok (.move (before.length + 1) (depth, found)) := by
      simp only [typeParameterStep, hat, hname, hprevious, Option.some.injEq, if_neg hfirst]
    rw [walk_next hls hstep]
    exact ih _ found (ahead_cons.2 hls) (congrArg Nat.succ hposition) (kindBefore?_cons hls)
      hdepth
  | case10 depth previous position l rest _ _ _ _ _ _ ih =>
    intro before found hls hposition _ hdepth
    have hat : ls[before.length]? = some l := getElem?_ahead hls 0
    have hstep : typeParameterStep ls before.length (depth, found) =
        .ok (.move (before.length + 1) (depth, found)) := by
      rw [typeParameterStep, hat]
      dsimp only
      split <;> simp_all
    rw [walk_next hls hstep]
    exact ih _ found (ahead_cons.2 hls) (congrArg Nat.succ hposition) (kindBefore?_cons hls)
      hdepth

/-- Both readings find the same type parameters behind an opening bracket. -/
theorem typeParametersAt_eq (hls : ls = before.reverse ++ l :: rest) (hless : l.kind = .less) :
    typeParametersAt ls before.length =
      .ok (typeParametersFrom 1 .less (before.length + 1) rest) := by
  have hat : ls[before.length]? = some l := getElem?_ahead hls 0
  have hstep : typeParameterStep ls before.length (0, []) =
      .ok (.move (before.length + 1) (0 + 1, [])) := by
    simp only [typeParameterStep, hat, hless]
  rw [typeParametersAt, walk_next hls hstep]
  exact walk_typeParameterStep 1 .less (before.length + 1) rest (l :: before) []
    (ahead_cons.2 hls) rfl ((kindBefore?_cons hls).trans (congrArg some hless)) (Nat.le_refl 1)

/-- A list that does not open with its bracket would take from a depth of zero. -/
example : typeParametersAt [⟨.greater, ">", 0⟩] 0 = .error .negativeDepth := by
  rw [typeParametersAt, walk]
  rfl

theorem parametrizeAt_eq (hls : ls = before.reverse ++ l :: rest) (hless : l.kind = .less)
    (o : Outline) :
    parametrizeAt ls o before.length = .ok (o.parametrize (before.length + 1) rest) := by
  rw [parametrizeAt, typeParametersAt_eq hls hless]
  rfl

/-! ### Declarations -/

/-- Both readings declare the same types behind a keyword. -/
theorem declareAt_eq (hls : ls = before.reverse ++ rest) (o : Outline) (topLevel : Bool) :
    declareAt ls o topLevel before.length = .ok (o.declare topLevel before.length rest) := by
  have hat : ls[before.length]? = rest[0]? := getElem?_ahead hls 0
  rw [declareAt, hat]
  rcases rest with - | ⟨name, rest⟩
  · rfl
  by_cases hname : name.kind = .identifier
  · simp only [List.getElem?_cons_zero, hname, ne_eq, not_true_eq_false, if_false,
      claimable_of_le (Nat.le_succ before.length) (lt_length_ahead hls)]
    rfl
  · simp [hname, Outline.declare]

/-- Both readings agree on whether a lexeme is the keyword of a declaration. -/
theorem declaresAt_eq (hls : ls = before.reverse ++ l :: rest) :
    declaresAt ls l before.length = declares before l rest := by
  have hls' : ls = (l :: before).reverse ++ rest := ahead_cons.2 hls
  have hname : (kindAt? ls (before.length + 1) == some .identifier) =
      rest.head?.any (·.kind == .identifier) := by
    rw [List.head?_eq_getElem?]
    exact kindAt?_beq hls' 0 _
  have hopens : (kindAt? ls (before.length + 2) == some .openParen ||
      kindAt? ls (before.length + 2) == some .less) =
        rest[1]?.any fun p ↦ p.kind == .openParen || p.kind == .less := by
    rw [show before.length + 2 = (l :: before).length + 1 from rfl, kindAt?_beq hls',
      kindAt?_beq hls']
    cases rest[1]? <;> rfl
  rw [declaresAt, declares, bne, kindBefore?_beq hls]
  cases l.kind <;> simp only [hname, hopens]

/-- A lexeme is taken in as by what stands around it. -/
theorem noteAt_eq (hls : ls = before.reverse ++ l :: rest) (o : Outline) (topLevel : Bool) :
    noteAt ls o topLevel l before.length = .ok (o.note topLevel before l rest) := by
  have hls' : ls = (l :: before).reverse ++ rest := ahead_cons.2 hls
  rw [noteAt, Outline.note, declaresAt_eq hls]
  split
  · exact declareAt_eq hls' o topLevel
  by_cases hless : l.kind = .less
  · rw [if_neg (not_not.2 hless), opensTypeParametersAt_eq hls, walked_bind]
    by_cases hopens : opensTypeParameters before = true
    · rw [if_pos hopens, if_pos ⟨hless, hopens⟩, parametrizeAt_eq hls hless]
    · rw [if_neg hopens, if_neg fun h ↦ hopens h.2, walked_pure]
  · rw [if_pos hless, if_neg fun h ↦ hless h.1, walked_pure]

/-! ### The first reading -/

/-- Only among no lexemes at all is there no last one to blame for an open brace. -/
theorem outlineStep_nil {depth : Nat} (hempty : ls = [] → depth = 0) (o : Outline) :
    outlineStep ls ls.length (depth, o) =
      .ok (.done (if depth = 0 then .ok o else .error (.unbalancedBraces (lastOffset ls)))) := by
  rw [outlineStep, if_neg (Nat.lt_irrefl _), lastOffset]
  cases hlast : ls.getLast? with
  | none => rw [if_pos (hempty (List.getLast?_eq_none_iff.1 hlast))]
  | some last => rfl

/-- A lexeme that is no brace opens a statement, or is taken in by itself. -/
theorem outlineStep_of_ne (hls : ls = before.reverse ++ l :: rest) (hopen : l.kind ≠ .openBrace)
    (hclose : l.kind ≠ .closeBrace) (depth : Nat) (o : Outline) :
    outlineStep ls before.length (depth, o) =
      .ok (match statementKind? depth l.kind with
        | some statement =>
          match readStatement (lastOffset ls) statement l rest with
          | .error e => .done (.error e)
          | .ok (read, used) =>
            .move (before.length + 1 + used)
              (depth, (o.state read).claim before.length (used + 1))
        | none => .move (before.length + 1) (depth, o.note (depth == 0) before l rest)) := by
  rw [outlineStep, if_pos (lt_length_ahead hls), lookAt_ahead hls, walked_bind]
  split
  · next h => exact absurd h hopen
  · next h => exact absurd h hclose
  rcases statementKind? depth l.kind with - | statement
  · dsimp only
    rw [noteAt_eq hls]
    rfl
  · dsimp only
    rw [statementAt_eq hls]
    rcases readStatement (lastOffset ls) statement l rest with e | ⟨read, used⟩
    · rfl
    · simp only [Except.map, walked_bind]
      rw [Nat.add_assoc, Nat.add_sub_cancel_left, Nat.add_comm 1 used]
      rfl

/-- **The first reading goes well from any place on**: every step moves on in range. -/
theorem walk_outlineStep (final : Nat) (before : List Lexeme) (depth : Nat) (o : Outline)
    (rest : List Lexeme) :
    ls = before.reverse ++ rest → final = lastOffset ls → (ls = [] → depth = 0) →
      walk ls.length (outlineStep ls) before.length (depth, o) =
        .ok (outlineFrom final before depth o rest) := by
  fun_induction outlineFrom final before depth o rest with
  | case1 before o =>
    intro hls _ hempty
    have hlength : before.length = ls.length := length_ahead hls
    rw [hlength]
    exact walk_of_done (outlineStep_nil hempty o)
  | case2 before depth o hdepth =>
    intro hls hfinal hempty
    have hlength : before.length = ls.length := length_ahead hls
    subst hfinal
    refine walk_of_done ?_
    rw [hlength, outlineStep_nil hempty, if_neg hdepth]
  | case3 before depth o l rest hopen ih =>
    intro hls hfinal _
    have hstep : outlineStep ls before.length (depth, o) =
        .ok (.move (before.length + 1) (depth + 1, o)) := by
      rw [outlineStep, if_pos (lt_length_ahead hls), lookAt_ahead hls, walked_bind]
      simp only [hopen]
      rfl
    rw [walk_next hls hstep]
    exact ih (ahead_cons.2 hls) hfinal fun h ↦ by simp [h] at hls
  | case4 before o l rest hclose =>
    intro hls hfinal _
    refine walk_of_done ?_
    rw [outlineStep, if_pos (lt_length_ahead hls), lookAt_ahead hls, walked_bind]
    simp only [hclose]
    rfl
  | case5 before o l rest outer hclose ih =>
    intro hls hfinal _
    have hstep : outlineStep ls before.length (outer + 1, o) =
        .ok (.move (before.length + 1) (outer, o)) := by
      rw [outlineStep, if_pos (lt_length_ahead hls), lookAt_ahead hls, walked_bind]
      simp only [hclose]
      rfl
    rw [walk_next hls hstep]
    exact ih (ahead_cons.2 hls) hfinal fun h ↦ by simp [h] at hls
  | case6 before depth o l rest statement e hread hopen hstatement htop hinside =>
    intro hls hfinal _
    subst hfinal
    have hstatement : statementKind? depth l.kind = some statement := hstatement
    refine walk_of_done ?_
    rw [outlineStep_of_ne hls hopen (kind_ne_closeBrace htop hinside)]
    simp only [hstatement, hread]
  | case7 before depth o l rest statement read used hread hopen hstatement htop hinside ih =>
    intro hls hfinal _
    subst hfinal
    have hstatement : statementKind? depth l.kind = some statement := hstatement
    have hstep := outlineStep_of_ne hls hopen (kind_ne_closeBrace htop hinside) depth o
    simp only [hstatement, hread] at hstep ⊢
    obtain ⟨hused, -⟩ := of_readStatement hread
    have hlength := length_ahead hls
    rw [List.length_cons] at hlength
    -- the statement is jumped over whole, and ends within the lexemes ahead
    have hrest := ih (by simpa using hls) rfl fun h ↦ by simp [h] at hls
    rw [walk_of_move hstep (by omega) (by omega), ← hrest]
    congr 1
    simp
    omega
  | case8 before depth o l rest hopen hstatement htop hinside ih =>
    intro hls hfinal _
    subst hfinal
    have hstatement : statementKind? depth l.kind = none := hstatement
    have hstep := outlineStep_of_ne hls hopen (kind_ne_closeBrace htop hinside) depth o
    simp only [hstatement] at hstep ⊢
    rw [walk_next hls hstep]
    exact ih (ahead_cons.2 hls) rfl fun h ↦ by simp [h] at hls

/-- **The first reading by position goes well**, and finds the outline. -/
theorem outlineAt_eq (ls : List Lexeme) : outlineAt ls = .ok (outline ls) :=
  walk_outlineStep (lastOffset ls) [] 0 {} ls rfl rfl fun _ ↦ rfl

end

end JavaDeps.Java
