import JavaDeps.Java.Outline
import Mathlib.Data.List.Basic

/-!
# The grammar of package and import statements

Which kinds of token make a statement is said here by rules, without looking at how statements are
read. A statement that goes wrong does so at one place: **up to there it could still have become a
statement, and with the next lexeme it cannot** (`LeavesAt`). The rules alone determine that place,
and `readStatement` blames it (`blames_of_readStatement`).
-/

namespace JavaDeps.Java

/-- The kinds of some lexemes. -/
def kinds (ls : List Lexeme) : List TokenKind := ls.map (·.kind)

/-! ### The rules -/

/-- What follows a segment of a dotted name, through the semicolon. The flag says whether the name
ends in `.*`. -/
inductive NameRest : Bool → List TokenKind → Prop
  | stop : NameRest false [.semicolon]
  | all : NameRest true [.dot, .star, .semicolon]
  | segment {wildcard : Bool} {ks : List TokenKind} (h : NameRest wildcard ks) :
    NameRest wildcard (.dot :: .identifier :: ks)

/-- A dotted name with its semicolon: an identifier and what may follow one, with or without `.*`
before the semicolon. -/
inductive DottedName : Bool → List TokenKind → Prop
  | start {wildcard : Bool} {ks : List TokenKind} (h : NameRest wildcard ks) :
    DottedName wildcard (.identifier :: ks)

/-- What follows the keyword of a statement. Only an import may be static. -/
inductive StatementBody : StatementKind → Bool → List TokenKind → Prop
  | named {kind : StatementKind} {wildcard : Bool} {ks : List TokenKind}
    (h : DottedName wildcard ks) : StatementBody kind wildcard ks
  | static {wildcard : Bool} {ks : List TokenKind} (h : DottedName wildcard ks) :
    StatementBody .importing wildcard (.staticWord :: ks)

/-- Whether a statement of the kind may end in `.*`. -/
def StatementKind.allowsWildcard : StatementKind → Bool
  | .package => false
  | .importing => true

/-- Whether lexemes begin with what a statement needs after its keyword. A star at the end of the
name is for imports only. -/
def StatementKind.Reads (kind : StatementKind) (rest : List Lexeme) : Prop :=
  ∃ wildcard ks, (wildcard = true → kind.allowsWildcard = true) ∧
    StatementBody kind wildcard ks ∧ ks <+: kinds rest

/-! ### Leaving a language -/

/-- Whether lexemes leave a language between `before` and `after`: those before could still become
one of its words, are none yet, and cannot become one with the lexeme that follows. -/
structure LeavesAt (language : List TokenKind → Prop) (before after : List Lexeme) : Prop where
  viable : ∃ more, language (kinds before ++ more)
  unfinished : ¬ language (kinds before)
  stuck : ∀ l rest, after = l :: rest → ∀ more, ¬ language (kinds before ++ l.kind :: more)

/-- Whether no word of a language begins another one, so that it is known where a word ends without
looking any further. -/
def PrefixFree (language : List TokenKind → Prop) : Prop :=
  ∀ ks more, language ks → language (ks ++ more) → more = []

namespace LeavesAt

variable {language : List TokenKind → Prop} {before after : List Lexeme}

/-- Of two places where lexemes leave a language, the first is not before the second. -/
theorem eq_nil_of_append {middle : List Lexeme} (h : LeavesAt language before (middle ++ after))
    (h' : LeavesAt language (before ++ middle) after) : middle = [] := by
  rcases middle with - | ⟨l, middle⟩
  · rfl
  · obtain ⟨more, hmore⟩ := h'.viable
    rw [kinds, List.map_append, List.append_assoc] at hmore
    exact absurd hmore (h.stuck l _ rfl _)

/-- Lexemes leave a language at one place. -/
theorem unique {before' after' : List Lexeme} (h : LeavesAt language before after)
    (h' : LeavesAt language before' after') (heq : before ++ after = before' ++ after') :
    before = before' ∧ after = after' := by
  rcases List.append_eq_append_iff.1 heq with ⟨middle, rfl, rfl⟩ | ⟨middle, rfl, rfl⟩
  · obtain rfl := h.eq_nil_of_append h'
    exact ⟨(List.append_nil _).symm, rfl⟩
  · obtain rfl := h'.eq_nil_of_append h
    exact ⟨List.append_nil _, rfl⟩

/-- Lexemes that begin with a word do not leave its language. -/
theorem not_prefix (hfree : PrefixFree language) (h : LeavesAt language before after)
    {ks : List TokenKind} (hks : language ks) : ¬ ks <+: kinds (before ++ after) := by
  rintro ⟨tail, htail⟩
  rw [kinds, List.map_append] at htail
  rcases List.append_eq_append_iff.1 htail with ⟨more, hbefore, -⟩ | ⟨more, rfl, hafter⟩
  · -- the word ends where the lexemes have become none yet
    obtain ⟨more', hviable⟩ := h.viable
    rw [kinds, hbefore, List.append_assoc] at hviable
    have hnil : more = [] := (List.append_eq_nil_iff.1 (hfree _ _ hks hviable)).1
    refine h.unfinished ?_
    rwa [kinds, hbefore, hnil, List.append_nil]
  · -- the word goes on where nothing can
    rcases more with - | ⟨k, more⟩
    · exact h.unfinished (by rwa [List.append_nil] at hks)
    · obtain ⟨l, rest, rfl, rfl, -⟩ := List.map_eq_cons_iff.1 hafter
      exact h.stuck l rest rfl more hks

/-- A language whose words all start alike is left one lexeme later. -/
theorem cons {language' : List TokenKind → Prop} {l : Lexeme}
    (hcons : ∀ ks, language' (l.kind :: ks) ↔ language ks) (h : LeavesAt language before after) :
    LeavesAt language' (l :: before) after where
  viable := h.viable.imp fun _ ↦ (hcons _).2
  unfinished hword := h.unfinished ((hcons _).1 hword)
  stuck l rest hafter more hword := h.stuck l rest hafter more ((hcons _).1 hword)

end LeavesAt

/-! ### The languages of the rules -/

/-- What may follow a segment, with or without `.*` at the end. -/
def AnyRest (ks : List TokenKind) : Prop := ∃ wildcard, NameRest wildcard ks

/-- Any dotted name with its semicolon. -/
def AnyName (ks : List TokenKind) : Prop := ∃ wildcard, DottedName wildcard ks

/-- What a statement of a kind would need, were it allowed to end in `.*`. -/
def StatementKind.AnyBody (kind : StatementKind) (ks : List TokenKind) : Prop :=
  ∃ wildcard, StatementBody kind wildcard ks

/-- A further segment leaves the rest of a name as it is. -/
theorem nameRest_segment_iff {wildcard : Bool} {ks : List TokenKind} :
    NameRest wildcard (.dot :: .identifier :: ks) ↔ NameRest wildcard ks := by
  constructor
  · rintro (_ | _ | h)
    exact h
  · exact .segment

/-- A dotted name is an identifier and the rest of a name. -/
theorem dottedName_identifier_iff {wildcard : Bool} {ks : List TokenKind} :
    DottedName wildcard (.identifier :: ks) ↔ NameRest wildcard ks := by
  constructor
  · rintro ⟨h⟩
    exact h
  · exact .start

theorem statementBody_identifier_iff {kind : StatementKind} {wildcard : Bool}
    {ks : List TokenKind} :
    StatementBody kind wildcard (.identifier :: ks) ↔ NameRest wildcard ks := by
  rw [← dottedName_identifier_iff]
  constructor
  · rintro ⟨h⟩
    exact h
  · exact .named

/-- The word for static imports stands in front of a dotted name. -/
theorem statementBody_static_iff {wildcard : Bool} {ks : List TokenKind} :
    StatementBody .importing wildcard (.staticWord :: ks) ↔ DottedName wildcard ks := by
  constructor
  · rintro (⟨⟨⟩⟩ | h)
    exact h
  · exact .static

/-- A name that goes on behind its semicolon is none, and its end shows whether it has a `.*`. -/
theorem NameRest.eq_nil {w w' : Bool} {ks more : List TokenKind} (h : NameRest w ks)
    (h' : NameRest w' (ks ++ more)) : more = [] ∧ w = w' := by
  induction h with
  | stop =>
    cases h' with
    | stop => exact ⟨rfl, rfl⟩
  | all =>
    cases h' with
    | all => exact ⟨rfl, rfl⟩
  | segment _ ih => exact ih (nameRest_segment_iff.1 h')

/-- A statement has one end: no body of a statement continues another one. -/
theorem StatementBody.eq_nil {kind : StatementKind} {w w' : Bool} {ks more : List TokenKind}
    (h : StatementBody kind w ks) (h' : StatementBody kind w' (ks ++ more)) :
    more = [] ∧ w = w' := by
  rcases h with ⟨⟨h⟩⟩ | ⟨⟨h⟩⟩
  · exact h.eq_nil (statementBody_identifier_iff.1 h')
  · exact h.eq_nil (dottedName_identifier_iff.1 (statementBody_static_iff.1 h'))

theorem StatementKind.prefixFree_anyBody (kind : StatementKind) : PrefixFree kind.AnyBody := by
  rintro ks more ⟨_, h⟩ ⟨_, h'⟩
  exact (h.eq_nil h').1

/-! ### Where a name goes wrong -/

theorem NameRest.first {wildcard : Bool} {k : TokenKind} {ks : List TokenKind}
    (h : NameRest wildcard (k :: ks)) : k = .semicolon ∨ k = .dot := by
  cases h <;> simp

theorem NameRest.second {wildcard : Bool} {k : TokenKind} {ks : List TokenKind}
    (h : NameRest wildcard (.dot :: k :: ks)) : k = .identifier ∨ k = .star := by
  cases h <;> simp

theorem NameRest.third {wildcard : Bool} {k : TokenKind} {ks : List TokenKind}
    (h : NameRest wildcard (.dot :: .star :: k :: ks)) : k = .semicolon := by
  cases h
  rfl

/-- A segment is followed by a dot or the semicolon. -/
theorem leavesAt_nil {after : List Lexeme}
    (h : ∀ l rest, after = l :: rest → ¬ (l.kind = .semicolon ∨ l.kind = .dot)) :
    LeavesAt AnyRest [] after where
  viable := ⟨_, _, .stop⟩
  unfinished := by
    rintro ⟨_, ⟨⟩⟩
  stuck l rest hafter more := by
    rintro ⟨_, hword⟩
    exact h l rest hafter hword.first

/-- A dot is followed by a segment or the star. -/
theorem leavesAt_dot {d : Lexeme} {after : List Lexeme} (hd : d.kind = .dot)
    (h : ∀ l rest, after = l :: rest → ¬ (l.kind = .identifier ∨ l.kind = .star)) :
    LeavesAt AnyRest [d] after := by
  have hkinds : kinds [d] = [.dot] := by rw [← hd]; rfl
  refine ⟨⟨[.star, .semicolon], _, by rw [hkinds]; exact .all⟩, ?_, fun l rest hafter more ↦ ?_⟩
  · rw [hkinds]
    rintro ⟨_, ⟨⟩⟩
  · rw [hkinds]
    rintro ⟨_, hword⟩
    exact h l rest hafter hword.second

/-- The star is followed by the semicolon. -/
theorem leavesAt_star {d s : Lexeme} {after : List Lexeme} (hd : d.kind = .dot)
    (hs : s.kind = .star) (h : ∀ l rest, after = l :: rest → l.kind ≠ .semicolon) :
    LeavesAt AnyRest [d, s] after := by
  have hkinds : kinds [d, s] = [.dot, .star] := by rw [← hd, ← hs]; rfl
  refine ⟨⟨[.semicolon], _, by rw [hkinds]; exact .all⟩, ?_, fun l rest hafter more ↦ ?_⟩
  · rw [hkinds]
    rintro ⟨_, ⟨⟩⟩
  · rw [hkinds]
    rintro ⟨_, hword⟩
    exact h l rest hafter hword.third

/-! ### Names are read by the rules -/

section Names

variable {segments : List String} {used n : Nat} {ls at_ : List Lexeme} {path : NamePath}

/-- **A name that is read is one of the grammar**, and as long as was used up. -/
theorem nameRest_of_readNameAfter (h : readNameAfter segments used ls = .ok (path, n)) :
    ∃ ks, NameRest path.wildcard ks ∧ ks <+: kinds ls ∧ n = used + ks.length := by
  fun_induction readNameAfter segments used ls with
  | case2 segments used l rest hsemicolon =>
    obtain ⟨rfl, rfl⟩ := Prod.mk.inj (Except.ok.inj h)
    exact ⟨_, .stop, by simp [kinds, hsemicolon], rfl⟩
  | case5 segments used l hsemicolon hdot s more hname ih =>
    obtain ⟨ks, hks, hpre, rfl⟩ := ih h
    refine ⟨_, .segment hks, ?_, by simp only [List.length_cons]; omega⟩
    simpa [kinds, not_not.1 hdot, hname] using hpre
  | case8 segments used l hsemicolon hdot s hname hstar e tail hend =>
    obtain ⟨rfl, rfl⟩ := Prod.mk.inj (Except.ok.inj h)
    exact ⟨_, .all, by simp [kinds, not_not.1 hdot, not_not.1 hstar, hend], rfl⟩
  | _ => cases h

/-- **A name that is not read leaves the grammar** at the lexeme that is blamed. -/
theorem leavesAt_of_readNameAfter (h : readNameAfter segments used ls = .error at_) :
    ∃ before, ls = before ++ at_ ∧ LeavesAt AnyRest before at_ := by
  fun_induction readNameAfter segments used ls with
  | case1 segments used =>
    obtain rfl := Except.error.inj h
    exact ⟨[], rfl, leavesAt_nil fun _ _ h ↦ by cases h⟩
  | case3 segments used l rest hsemicolon hdot =>
    obtain rfl := Except.error.inj h
    refine ⟨[], rfl, leavesAt_nil fun m _ hm ↦ ?_⟩
    obtain ⟨rfl, rfl⟩ := List.cons.inj hm
    exact not_or_intro hsemicolon hdot
  | case4 segments used l hsemicolon hdot =>
    obtain rfl := Except.error.inj h
    exact ⟨[l], rfl, leavesAt_dot (not_not.1 hdot) fun _ _ h ↦ by cases h⟩
  | case5 segments used l hsemicolon hdot s more hname ih =>
    obtain ⟨before, rfl, hleaves⟩ := ih h
    refine ⟨l :: s :: before, rfl, ?_⟩
    have hdotted : LeavesAt (fun ks ↦ AnyRest (.dot :: ks)) (s :: before) at_ := by
      refine hleaves.cons fun ks ↦ ?_
      rw [hname, AnyRest, AnyRest, exists_congr fun _ ↦ nameRest_segment_iff]
    exact hdotted.cons fun ks ↦ by rw [not_not.1 hdot]
  | case6 segments used l hsemicolon hdot s more hname hstar =>
    obtain rfl := Except.error.inj h
    refine ⟨[l], rfl, leavesAt_dot (not_not.1 hdot) fun m _ hm ↦ ?_⟩
    obtain ⟨rfl, rfl⟩ := List.cons.inj hm
    exact not_or_intro hname hstar
  | case7 segments used l hsemicolon hdot s hname hstar =>
    obtain rfl := Except.error.inj h
    exact ⟨[l, s], rfl, leavesAt_star (not_not.1 hdot) (not_not.1 hstar) fun _ _ h ↦ by cases h⟩
  | case9 segments used l hsemicolon hdot s hname hstar e tail hend =>
    obtain rfl := Except.error.inj h
    refine ⟨[l, s], rfl, leavesAt_star (not_not.1 hdot) (not_not.1 hstar) fun m _ hm ↦ ?_⟩
    obtain ⟨rfl, rfl⟩ := List.cons.inj hm
    exact hend
  | _ => cases h

/-- What is read as a name are the tokens of a dotted name, and how many these are is returned. -/
theorem dottedName_of_readName (h : readName ls = .ok (path, n)) :
    ∃ ks, DottedName path.wildcard ks ∧ ks <+: kinds ls ∧ n = ks.length := by
  rcases ls with - | ⟨l, rest⟩
  · cases h
  · rw [readName] at h
    split at h
    · next hname =>
      obtain ⟨ks, hks, hpre, rfl⟩ := nameRest_of_readNameAfter h
      refine ⟨_, .start hks, ?_, Nat.add_comm _ _⟩
      rw [kinds, List.map_cons, hname]
      exact List.prefix_cons_inj _ |>.2 hpre
    · cases h

/-- A name that is not read is left at the token that is reported. -/
theorem leavesAt_of_readName (h : readName ls = .error at_) :
    ∃ before, ls = before ++ at_ ∧ LeavesAt AnyName before at_ := by
  have hviable : ∃ ks, AnyName ks := ⟨_, _, .start .stop⟩
  have hnil : ¬ AnyName [] := by
    rintro ⟨_, ⟨⟩⟩
  rcases ls with - | ⟨l, rest⟩
  · obtain rfl := Except.error.inj h
    exact ⟨[], rfl, hviable, hnil, fun _ _ h ↦ by cases h⟩
  · rw [readName] at h
    split at h
    · next hname =>
      obtain ⟨before, rfl, hleaves⟩ := leavesAt_of_readNameAfter h
      refine ⟨l :: before, rfl, hleaves.cons fun ks ↦ ?_⟩
      rw [hname, AnyName, AnyRest, exists_congr fun _ ↦ dottedName_identifier_iff]
    · next hname =>
      obtain rfl := Except.error.inj h
      refine ⟨[], rfl, hviable, hnil, fun m _ hm more ↦ ?_⟩
      obtain ⟨rfl, rfl⟩ := List.cons.inj hm
      rintro ⟨_, hword⟩
      generalize l.kind = k at hname hword
      cases hword
      exact hname rfl

end Names

/-! ### Statements are read by the rules -/

/-- The place to blame for a statement that does not read: the lexeme with which it cannot become
one, or the last lexeme of all if none is left; and the keyword for a name with a forbidden `.*`. -/
inductive StatementKind.Blames (kind : StatementKind) (final : Nat) (l : Lexeme)
    (rest : List Lexeme) : Nat → Prop
  | left {before after : List Lexeme} (hrest : rest = before ++ after)
    (h : LeavesAt kind.AnyBody before after) : Blames kind final l rest (blame final after)
  | wildcard {ks : List TokenKind} (hforbidden : kind.allowsWildcard = false)
    (h : StatementBody kind true ks) (hpre : ks <+: kinds rest) : Blames kind final l rest l.offset

namespace StatementKind.Blames

variable {kind : StatementKind} {final offset offset' : Nat} {l : Lexeme} {rest : List Lexeme}

/-- The rules determine the place. -/
theorem unique (h : kind.Blames final l rest offset) (h' : kind.Blames final l rest offset') :
    offset = offset' := by
  cases h with
  | left hrest h =>
    cases h' with
    | left hrest' h' => rw [(h.unique h' (hrest ▸ hrest')).2]
    | wildcard _ hbody hpre =>
      exact absurd (hrest ▸ hpre) (h.not_prefix kind.prefixFree_anyBody ⟨_, hbody⟩)
  | wildcard _ hbody hpre =>
    cases h' with
    | left hrest h =>
      exact absurd (hrest ▸ hpre) (h.not_prefix kind.prefixFree_anyBody ⟨_, hbody⟩)
    | wildcard => rfl

/-- Nothing is blamed on a statement that reads. -/
theorem not_reads (h : kind.Blames final l rest offset) : ¬ kind.Reads rest := by
  rintro ⟨w, ks, hallowed, hbody, hpre⟩
  cases h with
  | left hrest h =>
    exact h.not_prefix kind.prefixFree_anyBody ⟨_, hbody⟩ (hrest ▸ hpre)
  | @wildcard ks' hforbidden hbody' hpre' =>
    -- both are read from the same lexemes, so they are one
    have hw : w = true := by
      rcases List.prefix_or_prefix_of_prefix hpre hpre' with ⟨more, rfl⟩ | ⟨more, rfl⟩
      · exact (hbody.eq_nil hbody').2
      · exact (hbody'.eq_nil hbody).2.symm
    rw [hallowed hw] at hforbidden
    cases hforbidden

end StatementKind.Blames

section Statements

variable {final n : Nat} {kind : StatementKind} {l : Lexeme} {rest : List Lexeme} {s : Statement}
  {e : ScanError}

/-- A statement that is read is one of the grammar. -/
theorem reads_of_readStatement (h : readStatement final kind l rest = .ok (s, n)) :
    kind.Reads rest := by
  cases kind with
  | package =>
    rcases hname : readName rest with at_ | ⟨path, used⟩
    · rw [readStatement, hname] at h
      cases h
    · simp only [readStatement, hname] at h
      split at h
      · cases h
      · next hwildcard =>
        obtain ⟨ks, hks, hpre, -⟩ := dottedName_of_readName hname
        exact ⟨_, ks, fun hw ↦ absurd hw hwildcard, .named hks, hpre⟩
  | importing =>
    rcases rest with - | ⟨first, more⟩
    · cases h
    · by_cases hstatic : first.kind = .staticWord
      · rcases hname : readName more with at_ | ⟨path, used⟩
        · simp [readStatement, hstatic, hname] at h
        · obtain ⟨ks, hks, hpre, -⟩ := dottedName_of_readName hname
          refine ⟨_, _, fun _ ↦ rfl, .static hks, ?_⟩
          rw [kinds, List.map_cons, hstatic]
          exact (List.prefix_cons_inj _).2 hpre
      · rcases hname : readName (first :: more) with at_ | ⟨path, used⟩
        · simp [readStatement, hstatic, hname] at h
        · obtain ⟨ks, hks, hpre, -⟩ := dottedName_of_readName hname
          exact ⟨_, ks, fun _ ↦ rfl, .named hks, hpre⟩

theorem anyBody_package_iff {ks : List TokenKind} :
    StatementKind.package.AnyBody ks ↔ AnyName ks := by
  refine exists_congr fun w ↦ ⟨?_, .named⟩
  rintro ⟨h⟩
  exact h

/-- Without a `static`, the body of an import is a name. -/
theorem anyName_of_anyBody {k : TokenKind} {ks : List TokenKind} (hk : k ≠ .staticWord)
    (h : StatementKind.importing.AnyBody (k :: ks)) : AnyName (k :: ks) := by
  rcases h with ⟨w, h | -⟩
  · exact ⟨w, h⟩
  · exact absurd rfl hk

/-- An import whose name leaves the grammar leaves it at the same place, unless it is static. -/
theorem LeavesAt.importing {before after : List Lexeme} (h : LeavesAt AnyName before after)
    (hfirst : ∀ m more, before ++ after = m :: more → m.kind ≠ .staticWord) :
    LeavesAt StatementKind.importing.AnyBody before after := by
  rcases before with - | ⟨b, before⟩
  · refine ⟨h.viable.imp fun _ ⟨w, hw⟩ ↦ ⟨w, .named hw⟩, ?_, fun m more hafter ks hbody ↦ ?_⟩
    · rintro ⟨w, ⟨⟨⟩⟩⟩
    · exact h.stuck m more hafter ks (anyName_of_anyBody (hfirst m more hafter) hbody)
  · have hb : b.kind ≠ .staticWord := hfirst b _ rfl
    refine ⟨h.viable.imp fun _ ⟨w, hw⟩ ↦ ⟨w, .named hw⟩, ?_, fun m more hafter ks hbody ↦ ?_⟩
    · exact fun hbody ↦ h.unfinished (anyName_of_anyBody hb hbody)
    · exact h.stuck m more hafter ks (anyName_of_anyBody hb hbody)

/-- A statement that is not read is blamed where it leaves the grammar. -/
theorem blames_of_readStatement (h : readStatement final kind l rest = .error e) :
    ∃ offset, e = .malformed kind offset ∧ kind.Blames final l rest offset := by
  cases kind with
  | package =>
    rcases hname : readName rest with at_ | ⟨path, used⟩
    · simp only [readStatement, hname] at h
      obtain ⟨before, hrest, hleaves⟩ := leavesAt_of_readName hname
      refine ⟨_, (Except.error.inj h).symm, .left hrest ?_⟩
      rwa [show StatementKind.package.AnyBody = AnyName from
        funext fun _ ↦ propext anyBody_package_iff]
    · simp only [readStatement, hname] at h
      split at h
      · next hwildcard =>
        obtain ⟨ks, hks, hpre, -⟩ := dottedName_of_readName hname
        rw [hwildcard] at hks
        exact ⟨_, (Except.error.inj h).symm, .wildcard rfl (.named hks) hpre⟩
      · cases h
  | importing =>
    by_cases hstatic : (rest.head?.any (·.kind == .staticWord)) = true
    · obtain ⟨first, more, rfl⟩ : ∃ first more, rest = first :: more := by
        rcases rest with - | ⟨first, more⟩
        · cases hstatic
        · exact ⟨first, more, rfl⟩
      have hfirst : first.kind = .staticWord := by simpa using hstatic
      rcases hname : readName more with at_ | ⟨path, used⟩
      · simp only [readStatement, hstatic, if_true, List.drop_succ_cons, List.drop_zero, hname] at h
        obtain ⟨before, rfl, hleaves⟩ := leavesAt_of_readName hname
        refine ⟨_, (Except.error.inj h).symm, .left (List.cons_append ..).symm
          (hleaves.cons fun ks ↦ ?_)⟩
        rw [hfirst, StatementKind.AnyBody, AnyName, exists_congr fun _ ↦ statementBody_static_iff]
      · simp [readStatement, hfirst, hname] at h
    · rcases hname : readName rest with at_ | ⟨path, used⟩
      · simp only [readStatement, hstatic, Bool.false_eq_true, if_false, List.drop_zero, hname] at h
        obtain ⟨before, rfl, hleaves⟩ := leavesAt_of_readName hname
        refine ⟨_, (Except.error.inj h).symm, .left rfl (hleaves.importing fun m more hrest ↦ ?_)⟩
        simpa [hrest] using hstatic
      · simp [readStatement, hstatic, hname] at h

end Statements

end JavaDeps.Java
