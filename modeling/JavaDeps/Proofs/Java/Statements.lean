import JavaDeps.Proofs.Java.StatementSpans

/-!
# The statements of a compilation unit

A statement outside all braces stands at the position of its keyword, and what it says is spelled by
the identifiers behind (`StatedAt`). Neither is said through the reading, which takes statements
whole and replaces one package by the next. **The reading takes in the statements that there are,
and nothing else** (`outline_takes`): its imports are those stated, and its package is the one
stated last.
-/

namespace JavaDeps.Java

/-! ### What statements say -/

/-- The kind of a statement. -/
def Statement.kind : Statement → StatementKind
  | .package _ => .package
  | .importing _ => .importing

/-- **What the lexemes behind a keyword say**: the segments of the name are its identifiers. -/
inductive Statement.SpelledBy (body : List Lexeme) : Statement → Prop
  | package (h : DottedName false (kinds body)) : SpelledBy body (.package (words body))
  | importing {wildcard : Bool} (h : DottedName wildcard (kinds body)) :
    SpelledBy body (.importing ⟨false, words body, wildcard⟩)
  | static {first : Lexeme} {more : List Lexeme} {wildcard : Bool} (hbody : body = first :: more)
    (hfirst : first.kind = .staticWord) (h : DottedName wildcard (kinds more)) :
    SpelledBy body (.importing ⟨true, words more, wildcard⟩)

/-- Whether the lexeme `l` is the keyword of a statement outside all braces that says `s`. -/
inductive States (before : List Lexeme) (l : Lexeme) (rest : List Lexeme) (s : Statement) : Prop
  | intro {body after : List Lexeme} (h : IsStatement before l s.kind body)
    (hrest : rest = body ++ after) (hs : s.SpelledBy body)

/-- Whether a statement stands at a position, among lexemes that stand behind others. -/
def StatedAfter (before ls : List Lexeme) (position : Nat) (s : Statement) : Prop :=
  ∃ pre l rest, ls = pre ++ l :: rest ∧ (before ++ pre).length = position ∧
    States (before ++ pre) l rest s

/-- **The statements of a compilation unit** outside all braces, with the positions of their
keywords. -/
def StatedAt (ls : List Lexeme) (position : Nat) (s : Statement) : Prop :=
  StatedAfter [] ls position s

/-- The name of the last package statement among those stated, if there is one. -/
inductive LastPackage (stated : Nat → Statement → Prop) : Option (List String) → Prop
  | stated {position : Nat} {segments : List String} (h : stated position (.package segments))
    (hlast : ∀ position' segments', stated position' (.package segments') →
      position' ≤ position) : LastPackage stated (some segments)
  | none (h : ∀ position segments, ¬ stated position (.package segments)) : LastPackage stated none

/-- Tokens spell at most one statement of a kind. -/
theorem Statement.SpelledBy.unique {s s' : Statement} {body : List Lexeme} (h : s.SpelledBy body)
    (h' : s'.SpelledBy body) (hkind : s.kind = s'.kind) : s = s' := by
  have hstatic {first : Lexeme} {more : List Lexeme} {wildcard : Bool}
      (hfirst : first.kind = .staticWord) : ¬ DottedName wildcard (kinds (first :: more)) := by
    rw [kinds, List.map_cons, hfirst]
    rintro ⟨⟩
  cases h with
  | package h =>
    cases h' with
    | package => rfl
    | importing => cases hkind
    | static => cases hkind
  | importing h =>
    cases h' with
    | package => cases hkind
    | importing h' => rw [h.wildcard_unique h']
    | static hbody hfirst => exact absurd (hbody ▸ h) (hstatic hfirst)
  | static hbody hfirst h =>
    cases h' with
    | package => cases hkind
    | importing h' => exact absurd (hbody ▸ h') (hstatic hfirst)
    | static hbody' _ h' =>
      obtain ⟨rfl, rfl⟩ := List.cons.inj (hbody.symm.trans hbody')
      rw [h.wildcard_unique h']

/-! ### Reading them -/

section Reading

variable {before rest ls : List Lexeme} {l : Lexeme} {kind : StatementKind} {s s' : Statement}
  {final used position : Nat}

/-- A statement is read as what it says. -/
theorem spelledBy_of_readStatement (h : readStatement final kind l rest = .ok (s, used)) :
    s.kind = kind ∧ s.SpelledBy (rest.take used) := by
  cases kind with
  | package =>
    rcases hname : readName rest with e | ⟨path, n⟩ <;> simp only [readStatement, hname] at h
    · cases h
    · split at h
      · cases h
      · next hwildcard =>
        obtain ⟨rfl, rfl⟩ := Prod.mk.inj (Except.ok.inj h)
        obtain ⟨-, hdotted, hsegments⟩ := of_readName hname
        rw [hsegments]
        exact ⟨rfl, .package (by simpa [hwildcard] using hdotted)⟩
  | importing =>
    rcases rest with - | ⟨first, more⟩
    · cases h
    by_cases hfirst : first.kind = .staticWord
    · rcases hname : readName more with e | ⟨⟨segments, wildcard⟩, n⟩
      · simp [readStatement, hfirst, hname] at h
      · simp only [readStatement, List.head?_cons, Option.any_some, hfirst, beq_self_eq_true,
          if_true, List.drop_succ_cons, List.drop_zero, hname] at h
        obtain ⟨rfl, rfl⟩ := Prod.mk.inj (Except.ok.inj h)
        obtain ⟨-, hdotted, rfl⟩ := of_readName hname
        rw [Nat.add_comm, List.take_succ_cons]
        exact ⟨rfl, .static rfl hfirst hdotted⟩
    · rcases hname : readName (first :: more) with e | ⟨⟨segments, wildcard⟩, n⟩
      · simp [readStatement, hfirst, hname] at h
      · have hplain : (first.kind == .staticWord) = false := by simpa using hfirst
        simp only [readStatement, List.head?_cons, Option.any_some, hplain, Bool.false_eq_true,
          if_false, List.drop_zero, hname, Nat.zero_add] at h
        obtain ⟨rfl, rfl⟩ := Prod.mk.inj (Except.ok.inj h)
        obtain ⟨-, hdotted, rfl⟩ := of_readName hname
        exact ⟨rfl, .importing hdotted⟩

/-- What is read at a keyword is all that the keyword states. -/
theorem states_iff_of_readStatement (h : readStatement final kind l rest = .ok (s, used))
    (hkeyword : l.kind = kind.keyword) (houtside : closed before = opened before) :
    States before l rest s' ↔ s' = s := by
  obtain ⟨rfl, hs⟩ := spelledBy_of_readStatement h
  obtain ⟨-, hbody, -⟩ := of_readStatement h
  constructor
  · rintro ⟨hstatement, hrest, hs'⟩
    have hkind : s'.kind = s.kind :=
      StatementKind.keyword_inj (hstatement.keyword.symm.trans hkeyword)
    rw [hkind] at hstatement
    rw [hstatement.body_eq hrest hbody] at hs'
    exact hs'.unique hs hkind
  · rintro rfl
    exact .intro ⟨houtside, hkeyword, hbody⟩ (List.take_append_drop used rest).symm hs

theorem States.keyword (h : States before l rest s) : l.kind = s.kind.keyword := by
  obtain ⟨h, -, -⟩ := h
  exact h.keyword

/-- A statement is made at the head of the tokens, or behind it. -/
theorem statedAfter_cons_iff :
    StatedAfter before (l :: rest) position s ↔
      before.length = position ∧ States before l rest s ∨
        StatedAfter (before ++ [l]) rest position s := by
  rw [StatedAfter, exists_split_cons, List.append_nil]
  refine or_congr_right (exists_congr fun pre ↦ exists_congr fun x ↦ exists_congr fun more ↦ ?_)
  rw [List.append_assoc, List.singleton_append]

/-- Lexemes that are no keywords state nothing. -/
theorem statedAfter_append_iff {body : List Lexeme}
    (h : ∀ m ∈ body, ∀ kind : StatementKind, m.kind ≠ kind.keyword) :
    StatedAfter before (body ++ rest) position s ↔
      StatedAfter (before ++ body) rest position s := by
  induction body generalizing before with
  | nil => rw [List.nil_append, List.append_nil]
  | cons m body ih =>
    obtain ⟨hm, hbody⟩ := List.forall_mem_cons.1 h
    rw [List.cons_append, statedAfter_cons_iff, or_iff_right, ih hbody, List.append_assoc,
      List.singleton_append]
    exact fun hstates ↦ hm _ hstates.2.keyword

theorem StatedAfter.length_le (h : StatedAfter before ls position s) :
    before.length ≤ position := by
  obtain ⟨pre, l, rest, -, rfl, -⟩ := h
  rw [List.length_append]
  exact Nat.le_add_right _ _

end Reading

/-! ### The whole reading -/

/-- What a reading has taken in, from one outline to the next: the imports stated, and the package
stated last. -/
structure Takes (stated : Nat → Statement → Prop) (o o' : Outline) : Prop where
  imports : ∀ i, i ∈ o'.imports ↔ i ∈ o.imports ∨ ∃ position, stated position (.importing i)
  package : ∃ last?, LastPackage stated last? ∧ o'.package = last?.getD o.package

section Takes

variable {stated : Nat → Statement → Prop} {o o₁ o' : Outline}

theorem takes_nothing (o : Outline) (h : ∀ position s, ¬ stated position s) : Takes stated o o where
  imports i := by simp [h]
  package := ⟨none, .none fun position segments ↦ h position _, rfl⟩

theorem Takes.congr (h : Takes stated o₁ o') (himports : o₁.imports = o.imports)
    (hpackage : o₁.package = o.package) : Takes stated o o' where
  imports := himports ▸ h.imports
  package := hpackage ▸ h.package

/-- A statement is taken in before those that stand behind it. -/
theorem Takes.cons {first : Nat} {s : Statement} (h : Takes stated (o.state s) o')
    (hfirst : ∀ position s', stated position s' → first < position) :
    Takes (fun position s' ↦ (first = position ∧ s' = s) ∨ stated position s') o o' where
  imports i := by
    rw [h.imports]
    cases s <;> simp [Outline.state, or_assoc, exists_or]
  package := by
    obtain ⟨last?, hlast, hpackage⟩ := h.package
    rw [hpackage]
    cases hlast with
    | @stated position segments hstated hlast =>
      refine ⟨some segments, .stated (.inr hstated) fun position' segments' h' ↦ ?_, rfl⟩
      rcases h' with ⟨rfl, -⟩ | h'
      · exact Nat.le_of_lt (hfirst _ _ hstated)
      · exact hlast _ _ h'
    | none hnone =>
      cases s with
      | package segments =>
        refine ⟨some segments, .stated (.inl ⟨rfl, rfl⟩) fun position' segments' h' ↦ ?_, rfl⟩
        rcases h' with ⟨rfl, -⟩ | h'
        · exact Nat.le_refl _
        · exact absurd h' (hnone _ _)
      | importing i =>
        refine ⟨none, .none fun position segments h' ↦ ?_, rfl⟩
        rcases h' with ⟨-, ⟨⟩⟩ | h'
        exact hnone _ _ h'

end Takes

/-- What is noted of a lexeme leaves the package as it is. -/
theorem Outline.package_note (o : Outline) (topLevel : Bool) (before : List Lexeme) (l : Lexeme)
    (rest : List Lexeme) : (o.note topLevel before l rest).package = o.package := by
  rw [note]
  split
  · rw [declare.eq_def]
    split
    · rfl
    · split <;> rfl
  · split <;> rfl

/-- A lexeme that opens no statement is passed by. -/
theorem statedAfter_cons_of_not {before rest : List Lexeme} {l : Lexeme}
    (h : ∀ s, ¬ States before l rest s) :
    StatedAfter before (l :: rest) = StatedAfter (before ++ [l]) rest := by
  funext position s
  rw [statedAfter_cons_iff, eq_iff_iff, or_iff_right]
  exact fun hstates ↦ h s hstates.2

/-- A statement that is read is passed by whole. -/
theorem statedAfter_cons_of_read {final used : Nat} {before rest : List Lexeme} {l : Lexeme}
    {kind : StatementKind} {s : Statement} (h : readStatement final kind l rest = .ok (s, used))
    (hkeyword : l.kind = kind.keyword) (houtside : closed before = opened before) :
    StatedAfter before (l :: rest) = fun position s' ↦ (before.length = position ∧ s' = s) ∨
      StatedAfter (before ++ l :: rest.take used) (rest.drop used) position s' := by
  have hskip (position : Nat) (s' : Statement) :
      StatedAfter (before ++ [l]) rest position s' ↔
        StatedAfter (before ++ l :: rest.take used) (rest.drop used) position s' := by
    conv_lhs => rw [← List.take_append_drop used rest]
    rw [statedAfter_append_iff, List.append_assoc, List.singleton_append]
    exact fun m hm kind' ↦ (readStatement_inStatement h m hm).ne (not_inStatement_keyword kind')
  funext position s'
  rw [statedAfter_cons_iff, states_iff_of_readStatement h hkeyword houtside, hskip]

/-- **Reading on takes in the statements ahead.** -/
theorem takes_of_outlineFrom {final depth : Nat} {before ls : List Lexeme} {o o' : Outline}
    (h : outlineFrom final before depth o ls = .ok o')
    (hdepth : closed before + depth = opened before) :
    Takes (StatedAfter before.reverse ls) o o' := by
  -- by the number of lexemes ahead, since a statement is jumped over whole
  match ls with
  | [] =>
    rw [outlineFrom] at h
    split at h
    · obtain rfl := Except.ok.inj h
      exact takes_nothing o (by simp [StatedAfter])
    · cases h
  | l :: rest =>
    have hopened : opened (l :: before) = opened before + opened [l] := by
      rw [← List.singleton_append, opened_append, Nat.add_comm]
    have hclosed : closed (l :: before) = closed before + closed [l] := by
      rw [← List.singleton_append, closed_append, Nat.add_comm]
    rw [opened_singleton] at hopened
    rw [closed_singleton] at hclosed
    have hbrace (hl : l.kind = .openBrace ∨ l.kind = .closeBrace) (s : Statement) :
        ¬ States before.reverse l rest s := by
      intro hstates
      rw [hstates.keyword] at hl
      cases hs : s.kind <;> simp [hs, StatementKind.keyword] at hl
    rcases outlineFrom_cons h with ⟨hl, hrest⟩ | ⟨hl, outer, rfl, hrest⟩ |
      ⟨hopen, hclose, kind, s, used, hkind, hread, hrest⟩ | ⟨hopen, hclose, hkind, hrest⟩
    · rw [statedAfter_cons_of_not (hbrace (.inl hl)), ← List.reverse_cons]
      exact takes_of_outlineFrom hrest (by simp [hopened, hclosed, hl]; omega)
    · rw [statedAfter_cons_of_not (hbrace (.inr hl)), ← List.reverse_cons]
      exact takes_of_outlineFrom hrest (by simp [hopened, hclosed, hl]; omega)
    · obtain ⟨rfl, hkeyword⟩ := statementKind?_eq_some_iff.1 hkind
      have houtside : closed before.reverse = opened before.reverse := by
        rw [closed_reverse, opened_reverse]
        exact hdepth
      have hparts := readStatement_inStatement hread
      have hinside : closed (rest.take used) = 0 ∧ opened (rest.take used) = 0 :=
        ⟨closed_of_inStatement hparts, opened_of_inStatement hparts⟩
      have hahead := takes_of_outlineFrom hrest (by
        rw [closed_append, opened_append, closed_reverse, opened_reverse]
        simpa [hopened, hclosed, hopen, hclose, hinside] using hdepth)
      rw [List.reverse_append, List.reverse_reverse, List.reverse_cons, List.append_assoc,
        List.singleton_append] at hahead
      rw [statedAfter_cons_of_read hread hkeyword houtside]
      refine Takes.cons (o := o) (hahead.congr rfl rfl) fun position s' hstated ↦ ?_
      have hle := hstated.length_le
      rw [List.length_append, List.length_cons] at hle
      omega
    · rw [statedAfter_cons_of_not, ← List.reverse_cons]
      · refine (takes_of_outlineFrom hrest ?_).congr (o.imports_note ..) (o.package_note ..)
        simpa [hopened, hclosed, hopen, hclose] using hdepth
      · -- within braces, and away from the keywords, no statement starts
        rintro s ⟨hstatement, -, -⟩
        have houtside := hstatement.outside
        rw [closed_reverse, opened_reverse] at houtside
        rw [statementKind?_eq_some_iff.2 ⟨by omega, hstatement.keyword⟩] at hkind
        cases hkind
termination_by ls.length
decreasing_by all_goals simp only [List.length_cons, List.length_drop]; omega

/-- **The outline of a compilation unit lists the imports that are stated**, and its package is the
one that is stated last. -/
theorem outline_takes {ls : List Lexeme} {o : Outline} (h : outline ls = .ok o) :
    (∀ i, i ∈ o.imports ↔ ∃ position, StatedAt ls position (.importing i)) ∧
      ∃ last?, LastPackage (StatedAt ls) last? ∧ o.package = last?.getD [] := by
  have htakes := takes_of_outlineFrom h rfl
  exact ⟨fun i ↦ (htakes.imports i).trans (or_iff_right List.not_mem_nil), htakes.package⟩

end JavaDeps.Java
