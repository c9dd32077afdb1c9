import JavaDeps.Proofs.Java.ImportStatement
import JavaDeps.Proofs.Java.StatementGrammar
import Mathlib.Data.List.Induction

/-!
# Which sources are accepted

A source is refused for one of three reasons: a comment or text block that is never closed, braces
that do not balance, and a package or import statement outside all braces that breaks the rules of
`StatementGrammar`. Each reason is stated over all the tokens at once, by counting and not by
reading along. **A source is accepted exactly when there is no such reason, and refused for the
leftmost one otherwise** (`scan_accepts_iff`).

The reading jumps over the statements that it reads, and looks aside for declarations and type
parameters. That it comes by every brace and every keyword outside braces all the same is
`outlineFrom_judges`: what it jumps over holds neither.
-/

namespace JavaDeps.Java

/-! ### Pieces of a source -/

/-- A piece of source text in place: what it is, its characters, and the byte at which it starts.
Blanks, comments and stray characters are pieces, too. -/
structure SourcePiece where
  kind : PieceKind
  text : String
  offset : Nat

/-- The lexeme that a piece makes. -/
def SourcePiece.lexeme? (p : SourcePiece) : Option Lexeme :=
  match p.kind with
  | .token kind => some ⟨kind, p.text, p.offset⟩
  | _ => none

/-- The error that a piece makes. -/
def SourcePiece.unclosed? (p : SourcePiece) : Option ScanError :=
  match p.kind with
  | .unclosed what => some (.unterminated what p.offset)
  | _ => none

/-- The pieces of a text that starts at byte `offset`, from left to right. -/
def piecesFrom (offset : Nat) : List Char → List SourcePiece
  | [] => []
  | c :: rest =>
    let piece := pieceAt c rest
    let text := c :: rest.take piece.more
    ⟨piece.kind, String.ofList text, offset⟩ ::
      piecesFrom (offset + byteLength text) (rest.drop piece.more)
termination_by cs => cs.length
decreasing_by simp only [List.length_cons, List.length_drop]; omega

/-- The pieces of a source, from its beginning to its end. Nothing is left out, and an enclosure
that is not closed takes all the rest. -/
def pieces (source : String) : List SourcePiece := piecesFrom 0 source.toList

/-- The tokens among the pieces of a source, in order. Unlike its lexemes, they are there also if an
enclosure is not closed. -/
def tokens (source : String) : List Lexeme := (pieces source).filterMap (·.lexeme?)

/-- The error of the first enclosure that is never closed. -/
def firstUnclosed? (source : String) : Option ScanError := (pieces source).findSome? (·.unclosed?)

/-- Cutting into lexemes answers with the tokens, or the first enclosure that is never closed. -/
theorem lexemesFrom_eq (offset : Nat) (cs : List Char) :
    lexemesFrom offset cs =
      match (piecesFrom offset cs).findSome? (·.unclosed?) with
      | some e => .error e
      | none => .ok ((piecesFrom offset cs).filterMap (·.lexeme?)) := by
  fun_induction lexemesFrom offset cs with
  | case1 => rw [piecesFrom]; rfl
  | case2 offset c rest piece text after kind hkind ih =>
    simp only [piecesFrom, List.findSome?_cons, List.filterMap_cons, SourcePiece.unclosed?,
      SourcePiece.lexeme?, hkind, ih, after, piece, text] at *
    rcases List.findSome? _ _ with - | e <;> rfl
  | case3 offset c rest piece text after hkind ih | case4 offset c rest piece text after hkind ih =>
    simp only [piecesFrom, List.findSome?_cons, List.filterMap_cons, SourcePiece.unclosed?,
      SourcePiece.lexeme?, hkind, ih, after, piece, text] at *
  | case5 offset c rest piece text what hkind =>
    simp only [piecesFrom, List.findSome?_cons, SourcePiece.unclosed?, hkind, piece] at *

/-- A source is cut into its tokens, or refused for the first enclosure that is never closed. -/
theorem lexemes_eq (source : String) :
    lexemes source =
      match firstUnclosed? source with
      | some e => .error e
      | none => .ok (tokens source) :=
  lexemesFrom_eq 0 source.toList

/-! ### Braces -/

/-- The number of opening braces. -/
def opened (ls : List Lexeme) : Nat := ls.countP (·.kind == .openBrace)

/-- The number of closing braces. -/
def closed (ls : List Lexeme) : Nat := ls.countP (·.kind == .closeBrace)

@[simp] theorem opened_nil : opened [] = 0 := rfl

@[simp] theorem closed_nil : closed [] = 0 := rfl

@[simp] theorem opened_append (ls rest : List Lexeme) :
    opened (ls ++ rest) = opened ls + opened rest :=
  List.countP_append

@[simp] theorem closed_append (ls rest : List Lexeme) :
    closed (ls ++ rest) = closed ls + closed rest :=
  List.countP_append

theorem opened_singleton (l : Lexeme) :
    opened [l] = if l.kind = .openBrace then 1 else 0 := by
  simp [opened, List.countP_cons]

theorem closed_singleton (l : Lexeme) :
    closed [l] = if l.kind = .closeBrace then 1 else 0 := by
  simp [closed, List.countP_cons]

/-- Whether closing braces never outnumber opening ones from the left, and there are as many of
both. -/
structure Balanced (ls : List Lexeme) : Prop where
  closed_le : ∀ before, before <+: ls → closed before ≤ opened before
  closed_eq : closed ls = opened ls

/-! ### Statements -/

/-- The keyword of a statement. -/
def StatementKind.keyword : StatementKind → TokenKind
  | .package => .packageWord
  | .importing => .importWord

theorem statementKind?_eq_some_iff {depth : Nat} {k : TokenKind} {kind : StatementKind} :
    statementKind? depth k = some kind ↔ depth = 0 ∧ k = kind.keyword := by
  by_cases hdepth : depth = 0
  · cases kind <;> cases k <;> simp [statementKind?, StatementKind.keyword, hdepth]
  · simp [statementKind?, hdepth]

/-- Whether every keyword outside all braces opens a statement: as many braces are closed as opened
before it, and what follows it is read as a statement of its kind. -/
def StatementsRead (ls : List Lexeme) : Prop :=
  ∀ before l after (kind : StatementKind), ls = before ++ l :: after →
    closed before = opened before → l.kind = kind.keyword → kind.Reads after

/-! ### Faults -/

/-- What can be wrong at a place, with the error for it, when `depth` braces are open before the
lexemes. Braces that are left open are a fault behind all lexemes, for which `final` is blamed. -/
inductive Fault (final depth : Nat) (ls : List Lexeme) (i : Nat) : ScanError → Prop
  | unopened {l : Lexeme} (hl : ls[i]? = some l) (hkind : l.kind = .closeBrace)
    (hcount : depth + opened (ls.take i) ≤ closed (ls.take i)) :
    Fault final depth ls i (.unbalancedBraces l.offset)
  | malformed {l : Lexeme} {kind : StatementKind} {offset : Nat} (hl : ls[i]? = some l)
    (hkind : l.kind = kind.keyword) (hcount : depth + opened (ls.take i) = closed (ls.take i))
    (hreads : ¬ kind.Reads (ls.drop (i + 1)))
    (hblames : kind.Blames final l (ls.drop (i + 1)) offset) :
    Fault final depth ls i (.malformed kind offset)
  | unclosed (hi : i = ls.length) (hcount : depth + opened ls ≠ closed ls) :
    Fault final depth ls i (.unbalancedBraces final)

/-- Whether an error is that of the leftmost fault. There may be faults further to the right, and
they are not reported. -/
def LeftmostFault (final depth : Nat) (ls : List Lexeme) (e : ScanError) : Prop :=
  ∃ i, Fault final depth ls i e ∧ ∀ j e', Fault final depth ls j e' → i ≤ j

/-- What a reading has to answer: it goes through without a fault, else fails for the leftmost. -/
def Judges {α : Type} (final depth : Nat) (ls : List Lexeme) : Except ScanError α → Prop
  | .ok _ => ∀ i e, ¬ Fault final depth ls i e
  | .error e => LeftmostFault final depth ls e

section Fault

variable {final depth depth' i : Nat} {ls rest : List Lexeme} {l : Lexeme} {e e' : ScanError}

/-- A place has one fault at most. -/
theorem Fault.unique (h : Fault final depth ls i e) (h' : Fault final depth ls i e') : e = e' := by
  have hlength : ls[ls.length]? = none := List.getElem?_eq_none (Nat.le_refl _)
  cases h with
  | unopened hl hkind _ =>
    cases h' with
    | unopened hl' => rw [Option.some.inj (hl.symm.trans hl')]
    | @malformed _ kind _ hl' hkind' =>
      rw [Option.some.inj (hl.symm.trans hl'), hkind'] at hkind
      cases kind <;> cases hkind
    | unclosed hi => rw [hi, hlength] at hl; cases hl
  | @malformed _ kind _ hl hkind _ _ hblames =>
    cases h' with
    | unopened hl' hkind' =>
      rw [Option.some.inj (hl.symm.trans hl'), hkind'] at hkind
      cases kind <;> cases hkind
    | @malformed _ kind' _ hl' hkind' _ _ hblames' =>
      obtain rfl := Option.some.inj (hl.symm.trans hl')
      obtain rfl : kind = kind' := by
        rw [hkind] at hkind'
        cases kind <;> cases kind' <;> first | rfl | cases hkind'
      rw [hblames.unique hblames']
    | unclosed hi => rw [hi, hlength] at hl; cases hl
  | unclosed hi =>
    cases h' with
    | unopened hl => rw [hi, hlength] at hl; cases hl
    | malformed hl => rw [hi, hlength] at hl; cases hl
    | unclosed => rfl

/-- A list of lexemes has one leftmost fault at most. -/
theorem LeftmostFault.unique (h : LeftmostFault final depth ls e)
    (h' : LeftmostFault final depth ls e') : e = e' := by
  obtain ⟨i, hi, hleft⟩ := h
  obtain ⟨j, hj, hleft'⟩ := h'
  obtain rfl : i = j := Nat.le_antisymm (hleft j e' hj) (hleft' i e hi)
  exact hi.unique hj

/-- **Behind lexemes, only the number of braces that they leave open matters.** -/
theorem fault_append_iff {pre : List Lexeme} (hdepth : depth + opened pre = depth' + closed pre) :
    Fault final depth (pre ++ ls) (pre.length + i) e ↔ Fault final depth' ls i e := by
  have hget : (pre ++ ls)[pre.length + i]? = ls[i]? := by
    rw [List.getElem?_append_right (Nat.le_add_right _ _), Nat.add_sub_cancel_left]
  have htake : (pre ++ ls).take (pre.length + i) = pre ++ ls.take i :=
    List.take_length_add_append i
  have hdrop : (pre ++ ls).drop (pre.length + i + 1) = ls.drop (i + 1) := by
    rw [Nat.add_assoc, List.drop_length_add_append]
  constructor
  · rintro (⟨hl, hkind, hcount⟩ | ⟨hl, hkind, hcount, hreads, hblames⟩ | ⟨hi, hcount⟩)
    · rw [htake, opened_append, closed_append] at hcount
      exact .unopened (hget ▸ hl) hkind (by omega)
    · rw [htake, opened_append, closed_append] at hcount
      rw [hdrop] at hreads hblames
      exact .malformed (hget ▸ hl) hkind (by omega) hreads hblames
    · rw [List.length_append] at hi
      rw [opened_append, closed_append] at hcount
      exact .unclosed (by omega) (by omega)
  · rintro (⟨hl, hkind, hcount⟩ | ⟨hl, hkind, hcount, hreads, hblames⟩ | ⟨hi, hcount⟩)
    · refine .unopened (hget ▸ hl) hkind ?_
      rw [htake, opened_append, closed_append]
      omega
    · refine .malformed (hget ▸ hl) hkind ?_ (hdrop ▸ hreads) (hdrop ▸ hblames)
      rw [htake, opened_append, closed_append]
      omega
    · refine .unclosed ?_ ?_
      · rw [List.length_append]; omega
      · rw [opened_append, closed_append]; omega

/-- A reading that comes by lexemes without a fault may be judged on what follows. -/
theorem Judges.append {α : Type} (pre : List Lexeme) {result : Except ScanError α}
    (hpre : ∀ i < pre.length, ∀ e, ¬ Fault final depth (pre ++ ls) i e)
    (hdepth : depth + opened pre = depth' + closed pre) (h : Judges final depth' ls result) :
    Judges final depth (pre ++ ls) result := by
  -- a fault lies behind the lexemes, where it is one of what follows
  have hbehind : ∀ {i e}, Fault final depth (pre ++ ls) i e →
      ∃ j, i = pre.length + j ∧ Fault final depth' ls j e := by
    intro i e hfault
    obtain ⟨j, rfl⟩ := Nat.exists_eq_add_of_le (Nat.le_of_not_lt fun hi ↦ hpre i hi e hfault)
    exact ⟨j, rfl, (fault_append_iff hdepth).1 hfault⟩
  cases result with
  | ok _ =>
    intro i e hfault
    obtain ⟨j, -, hj⟩ := hbehind hfault
    exact h j e hj
  | error e =>
    obtain ⟨i, hi, hleft⟩ := h
    refine ⟨pre.length + i, (fault_append_iff hdepth).2 hi, fun k e' hfault ↦ ?_⟩
    obtain ⟨j, rfl, hj⟩ := hbehind hfault
    exact Nat.add_le_add_left (hleft j e' hj) _

/-- A lexeme that is no closing brace and no keyword outside all braces is no fault, nor is a
statement that reads. -/
theorem not_fault_zero (hclose : l.kind = .closeBrace → depth ≠ 0)
    (hreads : ∀ kind, statementKind? depth l.kind = some kind → kind.Reads rest) :
    ¬ Fault final depth (l :: rest) 0 e := by
  rintro (⟨hl, hkind, hcount⟩ | ⟨hl, hkind, hcount, hnot, -⟩ | ⟨hi, -⟩)
  · obtain rfl := Option.some.inj hl
    exact hclose hkind (Nat.le_zero.1 hcount)
  · obtain rfl := Option.some.inj hl
    exact hnot (hreads _ (statementKind?_eq_some_iff.2 ⟨hcount, hkind⟩))
  · cases hi

theorem not_fault_nil (hdepth : depth = 0) : ¬ Fault final depth [] i e := by
  rintro (⟨hl, -⟩ | ⟨hl, -⟩ | ⟨-, hcount⟩)
  · simp at hl
  · simp at hl
  · exact hcount hdepth

/-- One lexeme that is no fault is passed by. -/
theorem Judges.cons {α : Type} {result : Except ScanError α}
    (hclose : l.kind = .closeBrace → depth ≠ 0)
    (hreads : ∀ kind, statementKind? depth l.kind = some kind → kind.Reads rest)
    (hdepth : depth + opened [l] = depth' + closed [l]) (h : Judges final depth' rest result) :
    Judges final depth (l :: rest) result := by
  refine Judges.append [l] (fun i hi e ↦ ?_) hdepth h
  obtain rfl : i = 0 := by simpa using hi
  exact not_fault_zero hclose hreads

/-- Nothing in a statement is a fault. -/
theorem not_fault_of_inStatement {ls : List Lexeme} {i : Nat} (hl : ls[i]? = some l)
    (h : l.kind.inStatement) : ¬ Fault final depth ls i e := by
  rintro (⟨hl', hkind, -⟩ | @⟨_, kind, _, hl', hkind, -, -, -⟩ | ⟨hi, -⟩)
  · rw [Option.some.inj (hl'.symm.trans hl)] at hkind
    exact h.ne (by simp [TokenKind.inStatement]) hkind
  · rw [Option.some.inj (hl'.symm.trans hl)] at hkind
    cases kind <;> exact h.ne (by simp [TokenKind.inStatement, StatementKind.keyword]) hkind
  · rw [hi, List.getElem?_eq_none (Nat.le_refl _)] at hl
    cases hl

theorem opened_of_inStatement (h : ∀ l ∈ ls, l.kind.inStatement) : opened ls = 0 := by
  rw [opened, List.countP_eq_zero]
  exact fun l hl ↦ by simpa using (h l hl).ne (by simp [TokenKind.inStatement])

theorem closed_of_inStatement (h : ∀ l ∈ ls, l.kind.inStatement) : closed ls = 0 := by
  rw [closed, List.countP_eq_zero]
  exact fun l hl ↦ by simpa using (h l hl).ne (by simp [TokenKind.inStatement])

/-- A statement that is read is passed by whole. -/
theorem Judges.statement {α : Type} {result : Except ScanError α} {kind : StatementKind}
    {s : Statement} {used : Nat} (hkind : statementKind? depth l.kind = some kind)
    (hread : readStatement final kind l rest = .ok (s, used))
    (h : Judges final depth (rest.drop used) result) : Judges final depth (l :: rest) result := by
  have hparts := readStatement_inStatement hread
  obtain ⟨hopen, hclose⟩ : l.kind ≠ .openBrace ∧ l.kind ≠ .closeBrace := by
    rw [(statementKind?_eq_some_iff.1 hkind).2]
    cases kind <;> simp [StatementKind.keyword]
  have hsplit : l :: rest = (l :: rest.take used) ++ rest.drop used := by
    rw [List.cons_append, List.take_append_drop]
  rw [hsplit]
  refine Judges.append (l :: rest.take used) (fun i hi e ↦ ?_) ?_ h
  · rw [← hsplit]
    rcases i with - | i
    · refine not_fault_zero (fun h ↦ absurd h hclose) fun kind' hkind' ↦ ?_
      obtain rfl := Option.some.inj (hkind.symm.trans hkind')
      exact reads_of_readStatement hread
    · have hi : i < (rest.take used).length := Nat.lt_of_succ_lt_succ hi
      refine not_fault_of_inStatement (l := (rest.take used)[i]) ?_
        (hparts _ (List.getElem_mem hi))
      rw [hsplit, List.getElem?_append_left (Nat.succ_lt_succ hi), List.getElem?_cons_succ,
        List.getElem?_eq_getElem hi]
  · rw [← List.singleton_append, opened_append, closed_append, opened_of_inStatement hparts,
      closed_of_inStatement hparts, opened_singleton, closed_singleton, if_neg hopen,
      if_neg hclose]

end Fault

/-! ### The reading judges -/

/-- **The first reading finds the leftmost fault**, wherever it starts. -/
theorem outlineFrom_judges (final : Nat) (before : List Lexeme) (depth : Nat) (o : Outline)
    (ls : List Lexeme) : Judges final depth ls (outlineFrom final before depth o ls) := by
  fun_induction outlineFrom final before depth o ls with
  | case1 before o => exact fun i e h ↦ not_fault_nil rfl h
  | case2 before depth o hdepth =>
    exact ⟨0, .unclosed rfl (by simpa using hdepth), fun j e' _ ↦ Nat.zero_le j⟩
  | case3 before depth o l rest hopen ih =>
    refine ih.cons (by simp [hopen]) (fun kind hkind ↦ ?_) ?_
    · simp [statementKind?, hopen] at hkind
    · rw [opened_singleton, closed_singleton, hopen]
      simp
  | case4 before o l rest hclose =>
    exact ⟨0, .unopened rfl hclose (by simp), fun j e' _ ↦ Nat.zero_le j⟩
  | case5 before o l rest outer hclose ih =>
    have ih : Judges final outer rest (outlineFrom final (l :: before) outer o rest) := ih
    refine ih.cons (fun _ ↦ Nat.succ_ne_zero outer) (fun kind hkind ↦ ?_) ?_
    · simp [statementKind?] at hkind
    · rw [opened_singleton, closed_singleton, hclose]
      simp
  | case6 before depth o l rest kind e hread hopen hkind hzero hsucc =>
    have hkind : statementKind? depth l.kind = some kind := hkind
    obtain ⟨rfl, hl⟩ := statementKind?_eq_some_iff.1 hkind
    obtain ⟨offset, rfl, hblames⟩ := blames_of_readStatement hread
    simp only [hkind, hread]
    exact ⟨0, .malformed rfl hl (by simp) hblames.not_reads hblames, fun j e' _ ↦ Nat.zero_le j⟩
  | case7 before depth o l rest kind s used hread hopen hkind hzero hsucc ih =>
    have hkind : statementKind? depth l.kind = some kind := hkind
    simp only [hkind, hread]
    exact ih.statement hkind hread
  | case8 before depth o l rest hopen hkind hzero hsucc ih =>
    have hkind : statementKind? depth l.kind = none := hkind
    have hclose : l.kind ≠ .closeBrace := kind_ne_closeBrace hzero hsucc
    simp only [hkind]
    refine ih.cons (fun h ↦ absurd h hclose) (by simp [hkind]) ?_
    rw [opened_singleton, closed_singleton, if_neg hopen, if_neg hclose]

/-! ### No fault -/

section NoFault

variable {final : Nat} {ls : List Lexeme}

/-- Without a fault, braces balance. -/
theorem balanced_of_no_fault (h : ∀ i e, ¬ Fault final 0 ls i e) : Balanced ls where
  closed_le before hpre := by
    induction before using List.reverseRecOn with
    | nil => exact Nat.le_refl 0
    | append_singleton before l ih =>
      have hle := ih ((List.prefix_append before [l]).trans hpre)
      rw [opened_append, closed_append, opened_singleton, closed_singleton]
      by_cases hl : l.kind = .closeBrace
      · -- the brace would be unopened
        obtain ⟨after, rfl⟩ := hpre
        rw [List.append_assoc, List.singleton_append] at h
        by_contra hcount
        refine h before.length (.unbalancedBraces l.offset) (.unopened ?_ hl ?_)
        · simp
        · rw [List.take_left]
          simp [hl] at hcount
          omega
      · rw [if_neg hl]
        omega
  closed_eq := by
    by_contra hcount
    exact h ls.length _ (.unclosed rfl (by omega))

/-- Every statement either reads or has a place to blame. -/
theorem reads_or_blames (final : Nat) (kind : StatementKind) (l : Lexeme) (rest : List Lexeme) :
    kind.Reads rest ∨ ∃ offset, kind.Blames final l rest offset := by
  rcases hread : readStatement final kind l rest with e | ⟨s, n⟩
  · obtain ⟨offset, -, hblames⟩ := blames_of_readStatement hread
    exact .inr ⟨offset, hblames⟩
  · exact .inl (reads_of_readStatement hread)

/-- Without a fault, statements read. -/
theorem statementsRead_of_no_fault (h : ∀ i e, ¬ Fault final 0 ls i e) : StatementsRead ls := by
  rintro before l after kind rfl hcount hl
  by_contra hreads
  obtain ⟨offset, hblames⟩ := (reads_or_blames final kind l after).resolve_left hreads
  have hdrop : (before ++ l :: after).drop (before.length + 1) = after := by
    rw [List.drop_length_add_append]
    rfl
  refine h before.length (.malformed kind offset) (.malformed (by simp) hl ?_ ?_ ?_)
  · rw [List.take_left, Nat.zero_add, hcount]
  · rwa [hdrop]
  · rwa [hdrop]

/-- Balanced braces and statements that read leave no fault. -/
theorem no_fault_iff (final : Nat) :
    (∀ i e, ¬ Fault final 0 ls i e) ↔ Balanced ls ∧ StatementsRead ls := by
  refine ⟨fun h ↦ ⟨balanced_of_no_fault h, statementsRead_of_no_fault h⟩, ?_⟩
  rintro ⟨hbalanced, hstatements⟩ i e (⟨hl, hkind, hcount⟩ |
    @⟨l, kind, _, hl, hkind, hcount, hreads, -⟩ | ⟨-, hcount⟩)
  · have hle := hbalanced.closed_le _ (List.take_prefix (i + 1) ls)
    rw [List.take_add_one, hl, Option.toList_some, opened_append, closed_append, opened_singleton,
      closed_singleton, hkind] at hle
    simp only [reduceCtorEq, if_true, if_false] at hle
    omega
  · have hsplit : ls = ls.take i ++ l :: ls.drop (i + 1) := by
      obtain ⟨hi, rfl⟩ := List.getElem?_eq_some_iff.1 hl
      rw [← List.drop_eq_getElem_cons hi, List.take_append_drop]
    exact hreads (hstatements _ _ _ _ hsplit (by omega) hkind)
  · exact hcount (by rw [Nat.zero_add, hbalanced.closed_eq])

end NoFault

/-! ### Acceptance -/

/-- The offset of the last of some lexemes. -/
def lastOffset (ls : List Lexeme) : Nat := (ls.getLast?.map (·.offset)).getD 0

/-- **The outline judges the tokens**: it fails at the leftmost fault, and reads everything if there
is none. -/
theorem outline_judges (ls : List Lexeme) : Judges (lastOffset ls) 0 ls (outline ls) :=
  outlineFrom_judges (lastOffset ls) [] 0 {} ls

/-- Lexemes are accepted when braces balance and statements read, and refused for the leftmost fault
otherwise. -/
theorem scanLexemes_accepts_iff (ls : List Lexeme) :
    ((∃ facts, scanLexemes ls = .ok facts) ↔ Balanced ls ∧ StatementsRead ls) ∧
      ∀ e, scanLexemes ls = .error e ↔ LeftmostFault (lastOffset ls) 0 ls e := by
  have hjudges := outline_judges ls
  rw [scanLexemes, ← no_fault_iff (lastOffset ls)]
  generalize outline ls = result at hjudges ⊢
  rcases result with e₀ | o
  · have hfault : LeftmostFault (lastOffset ls) 0 ls e₀ := hjudges
    refine ⟨⟨?_, fun h ↦ ?_⟩, fun e ↦ ⟨?_, fun h ↦ ?_⟩⟩
    · rintro ⟨facts, ⟨⟩⟩
    · obtain ⟨i, hi, -⟩ := hfault
      exact absurd hi (h i e₀)
    · intro h
      obtain rfl := Except.error.inj h
      exact hfault
    · rw [hfault.unique h]
      rfl
  · have hno : ∀ i e, ¬ Fault (lastOffset ls) 0 ls i e := hjudges
    refine ⟨⟨fun _ ↦ hno, fun _ ↦ ⟨_, rfl⟩⟩, fun e ↦ ⟨?_, ?_⟩⟩
    · rintro ⟨⟩
    · rintro ⟨i, hi, -⟩
      exact absurd hi (hno i e)

/-- **Which sources are accepted.** A source is accepted exactly when every comment and text block
is closed, braces balance, and every package and import statement outside all braces reads. It is
refused for the first enclosure that is never closed if there is one, and for the leftmost fault
among its tokens otherwise. -/
theorem scan_accepts_iff (source : String) :
    ((∃ facts, scan source = .ok facts) ↔
      (∀ p ∈ pieces source, p.unclosed? = none) ∧ Balanced (tokens source) ∧
        StatementsRead (tokens source)) ∧
    ∀ e, scan source = .error e ↔
      firstUnclosed? source = some e ∨
        (firstUnclosed? source = none ∧
          LeftmostFault (lastOffset (tokens source)) 0 (tokens source) e) := by
  have hclosed : firstUnclosed? source = none ↔ ∀ p ∈ pieces source, p.unclosed? = none := by
    rw [firstUnclosed?, List.findSome?_eq_none_iff]
  rw [scan, lexemes_eq, ← hclosed]
  rcases firstUnclosed? source with - | e₀
  · simpa [bind, Except.bind] using scanLexemes_accepts_iff (tokens source)
  · simp [bind, Except.bind, eq_comm]

end JavaDeps.Java
