import JavaDeps.Proofs.Java.Chains

/-!
# What a scan looks at

A scan reads the kinds of lexemes, what identifiers are called, and the literals that are passed to
calls such as `forName`. **Nothing else in the source reaches the facts**: not the contents of other
literals, and not the places of lexemes, which reach errors alone (`scan_eq_of_alike`).

The first reading looks at no literal at all. To erase the texts of all lexemes but identifiers, and
all places, before it or after it comes to the same (`outline_bare`). So it does for chains and for
what stands around them in the second reading, where each literal is looked at by itself
(`referencesFrom_congr`).
-/

namespace JavaDeps.Java

/-! ### Bare lexemes -/

/-- A lexeme without its place, and without its text unless that is a name. -/
def Lexeme.bare (l : Lexeme) : Lexeme where
  kind := l.kind
  text := if l.kind = .identifier then l.text else ""
  offset := 0

/-- A marked lexeme without its place, and without its text unless that is a name. -/
def MarkedLexeme.bare (l : MarkedLexeme) : MarkedLexeme := ⟨l.toLexeme.bare, l.claimed⟩

/-- An error that has forgotten its place. What was refused stays: the kind of enclosure or of
statement. -/
def ScanError.unplaced : ScanError → ScanError
  | .unterminated what _ => .unterminated what 0
  | .unbalancedBraces _ => .unbalancedBraces 0
  | .malformed statement _ => .malformed statement 0

@[simp] theorem Lexeme.bare_kind (l : Lexeme) : l.bare.kind = l.kind := rfl

@[simp] theorem Lexeme.bare_offset (l : Lexeme) : l.bare.offset = 0 := rfl

@[simp] theorem Lexeme.bare_text {l : Lexeme} (hname : l.kind = .identifier) :
    l.bare.text = l.text :=
  if_pos hname

@[simp] theorem Lexeme.isWord_bare (l : Lexeme) (text : String) :
    l.bare.isWord text = l.isWord text := by
  by_cases hname : l.kind = .identifier
  · simp [isWord, hname]
  · simp [isWord, beq_eq_false_iff_ne.2 hname]

@[simp] theorem MarkedLexeme.bare_kind (l : MarkedLexeme) : l.bare.kind = l.kind := rfl

@[simp] theorem MarkedLexeme.bare_text {l : MarkedLexeme} (hname : l.kind = .identifier) :
    l.bare.text = l.text :=
  if_pos hname

@[simp] theorem MarkedLexeme.bare_claimed (l : MarkedLexeme) : l.bare.claimed = l.claimed := rfl

/-! ### Statements -/

/-- A name is read alike without places, and so is the fault in it. -/
theorem readNameAfter_bare (segments : List String) (used : Nat) (ls : List Lexeme) :
    readNameAfter segments used (ls.map .bare) =
      (readNameAfter segments used ls).mapError (List.map .bare) := by
  fun_induction readNameAfter segments used ls with
  | case5 segments used l hsemicolon hdot s more hname ih =>
    -- the one case in which a text is read, and it is that of a name
    rw [← ih, List.map_cons, List.map_cons, readNameAfter.eq_def]
    simp [Decidable.not_not.1 hdot, hname]
  | _ =>
    rw [readNameAfter.eq_def]
    simp_all [Except.mapError]

/-- A name is read from bare tokens as from those with their texts and offsets. -/
theorem readName_bare (ls : List Lexeme) :
    readName (ls.map .bare) = (readName ls).mapError (List.map .bare) := by
  rcases ls with - | ⟨l, rest⟩
  · rfl
  · by_cases hname : l.kind = .identifier
    · simp [readName, hname, readNameAfter_bare]
    · simp [readName, hname, Except.mapError]

theorem blame_bare (ls : List Lexeme) : blame 0 (ls.map .bare) = 0 := by
  cases ls <;> rfl

/-- A statement is read alike without places; only its errors lose theirs. -/
theorem readStatement_bare (final : Nat) (kind : StatementKind) (l : Lexeme)
    (rest : List Lexeme) :
    readStatement 0 kind l.bare (rest.map .bare) =
      (readStatement final kind l rest).mapError .unplaced := by
  cases kind with
  | package =>
    rw [readStatement, readStatement, readName_bare]
    rcases readName rest with at_ | ⟨path, used⟩
    · simp [Except.mapError, blame_bare, ScanError.unplaced]
    · by_cases hwildcard : path.wildcard = true <;>
        simp [Except.mapError, ScanError.unplaced, hwildcard]
  | importing =>
    have hhead : (rest.map Lexeme.bare).head?.any (·.kind == .staticWord) =
        rest.head?.any (·.kind == .staticWord) := by
      cases rest <;> rfl
    rw [readStatement, readStatement, hhead]
    simp only [← List.map_drop, readName_bare]
    rcases readName _ with at_ | ⟨path, used⟩
    · simp [Except.mapError, blame_bare, ScanError.unplaced]
    · rfl

/-! ### The outline -/

@[simp] theorem endsWithKind_bare (before : List Lexeme) (kind : TokenKind) :
    endsWithKind (before.map .bare) kind = endsWithKind before kind := by
  cases before <;> rfl

@[simp] theorem opensTypeParameters_bare (before : List Lexeme) :
    opensTypeParameters (before.map .bare) = opensTypeParameters before := by
  rcases before with - | ⟨l, before⟩
  · rfl
  · have hhead : (before.map Lexeme.bare).head?.any (fun l ↦
        l.kind == .classWord || l.kind == .interfaceWord || l.isWord "record") =
        before.head?.any fun l ↦
          l.kind == .classWord || l.kind == .interfaceWord || l.isWord "record" := by
      cases before <;> simp
    by_cases hname : l.kind = .identifier
    · simp only [List.map_cons, opensTypeParameters, Lexeme.bare_kind, hname, hhead,
        Lexeme.bare_text hname]
    · simp only [List.map_cons, opensTypeParameters, Lexeme.bare_kind]
      split <;> simp_all

/-- The type parameters of a list do not depend on places. -/
@[simp] theorem typeParametersFrom_bare (depth : Nat) (previous : TokenKind) (position : Nat)
    (ls : List Lexeme) :
    typeParametersFrom depth previous position (ls.map .bare) =
      typeParametersFrom depth previous position ls := by
  induction ls generalizing depth previous position with
  | nil => rfl
  | cons l rest ih =>
    -- texts are compared behind the kinds, so that names are told from the rest first
    by_cases hname : l.kind = .identifier
    · simp only [List.map_cons, typeParametersFrom, ih, Lexeme.bare_kind, hname,
        Lexeme.bare_text hname]
    · simp only [List.map_cons, typeParametersFrom, ih, Lexeme.bare_kind]
      split <;> simp_all

/-- Whether a keyword declares a type does not depend on places. -/
@[simp] theorem declares_bare (before : List Lexeme) (l : Lexeme) (rest : List Lexeme) :
    declares (before.map .bare) l.bare (rest.map .bare) = declares before l rest := by
  by_cases hname : l.kind = .identifier
  · rcases rest with - | ⟨s, - | ⟨p, rest⟩⟩ <;> simp [declares, hname]
  · simp only [declares, endsWithKind_bare, Lexeme.bare_kind]
    split <;> simp_all

namespace Outline

variable (o : Outline)

@[simp] theorem declare_bare (topLevel : Bool) (position : Nat) (rest : List Lexeme) :
    o.declare topLevel position (rest.map .bare) = o.declare topLevel position rest := by
  rcases rest with - | ⟨l, rest⟩
  · rfl
  · by_cases hname : l.kind = .identifier
    · simp [declare, hname]
    · simp [declare, hname]

@[simp] theorem parametrize_bare (position : Nat) (rest : List Lexeme) :
    o.parametrize position (rest.map .bare) = o.parametrize position rest := by
  simp [parametrize]

@[simp] theorem note_bare (topLevel : Bool) (before : List Lexeme) (l : Lexeme)
    (rest : List Lexeme) :
    o.note topLevel (before.map .bare) l.bare (rest.map .bare) =
      o.note topLevel before l rest := by
  simp [note]

end Outline

/-- **Outlines do not depend on places**, and neither does the kind of an error. -/
theorem outlineFrom_bare (final : Nat) (before : List Lexeme) (depth : Nat) (o : Outline)
    (ls : List Lexeme) :
    outlineFrom 0 (before.map .bare) depth o (ls.map .bare) =
      (outlineFrom final before depth o ls).mapError .unplaced := by
  fun_induction outlineFrom final before depth o ls with
  | case1 before o => rw [List.map_nil, outlineFrom]; rfl
  | case2 before depth o hdepth => rw [List.map_nil, outlineFrom, if_neg hdepth]; rfl
  | case3 before depth o l rest hopen ih =>
    rw [← ih, List.map_cons, outlineFrom.eq_def]
    simp only [Lexeme.bare_kind, hopen, List.map_cons]
  | case4 before o l rest hclose =>
    rw [List.map_cons, outlineFrom.eq_def]
    simp only [Lexeme.bare_kind, hclose]
    rfl
  | case5 before o l rest outer hclose ih =>
    have ih : outlineFrom 0 ((l :: before).map .bare) outer o (rest.map .bare) =
      (outlineFrom final (l :: before) outer o rest).mapError .unplaced := ih
    rw [← ih, List.map_cons, outlineFrom.eq_def]
    simp only [Lexeme.bare_kind, hclose, List.map_cons]
  | case6 before depth o l rest kind e hread hopen hkind hzero hsucc =>
    have hkind : statementKind? depth l.kind = some kind := hkind
    rw [List.map_cons, outlineFrom_cons_of_ne (l := l.bare) hopen (kind_ne_closeBrace hzero hsucc)]
    simp only [Lexeme.bare_kind, hkind, readStatement_bare final, hread]
    rfl
  | case7 before depth o l rest kind s used hread hopen hkind hzero hsucc ih =>
    have hkind : statementKind? depth l.kind = some kind := hkind
    rw [List.map_cons, outlineFrom_cons_of_ne (l := l.bare) hopen (kind_ne_closeBrace hzero hsucc)]
    simp only [Lexeme.bare_kind, hkind, readStatement_bare final, hread, ← ih]
    simp [Except.mapError]
  | case8 before depth o l rest hopen hkind hzero hsucc ih =>
    have hkind : statementKind? depth l.kind = none := hkind
    rw [List.map_cons, outlineFrom_cons_of_ne (l := l.bare) hopen (kind_ne_closeBrace hzero hsucc)]
    simp only [Lexeme.bare_kind, hkind, ← ih, Outline.note_bare, List.map_cons]

/-- **The first reading looks at no literal and at no place**, but for what an error is blamed
on. -/
theorem outline_bare (ls : List Lexeme) :
    outline (ls.map .bare) = (outline ls).mapError .unplaced := by
  have hfinal : ((ls.map Lexeme.bare).getLast?.map (·.offset)).getD 0 = 0 := by
    rw [List.getLast?_map]
    cases ls.getLast? <;> rfl
  rw [outline, hfinal]
  exact outlineFrom_bare _ [] 0 {} ls

/-! ### References -/

@[simp] theorem startsWithKind_bare (ls : List MarkedLexeme) (kinds : List TokenKind) :
    startsWithKind (ls.map .bare) kinds = startsWithKind ls kinds := by
  cases ls <;> rfl

/-- The segments of a chain do not depend on places. -/
@[simp] theorem chainTail_bare (ls : List MarkedLexeme) :
    chainTail (ls.map .bare) = chainTail ls := by
  fun_induction chainTail ls with
  | case1 d s rest h ih =>
    rw [List.map_cons, List.map_cons, chainTail, ih, if_pos (by exact h),
      MarkedLexeme.bare_text h.2]
  | case2 d s rest h =>
    rw [List.map_cons, List.map_cons, chainTail]
    exact if_neg h
  | case3 ls h =>
    rcases ls with - | ⟨d, - | ⟨s, rest⟩⟩
    · rfl
    · rfl
    · exact absurd rfl (h d s rest)

/-- Whether a chain stands where a type does is told by kinds and words. -/
@[simp] theorem inTypePosition_bare (before after : List MarkedLexeme) :
    inTypePosition (before.map .bare) (after.map .bare) = inTypePosition before after := by
  have hbefore : ((before.map MarkedLexeme.bare).head?.any fun l ↦
      l.kind == .identifier && typeWords.contains l.text) =
      before.head?.any fun l ↦ l.kind == .identifier && typeWords.contains l.text := by
    rcases before with - | ⟨l, before⟩
    · rfl
    · by_cases hname : l.kind = .identifier
      · simp [hname]
      · simp [beq_eq_false_iff_ne.2 hname]
  rcases after with - | ⟨next, more⟩
  · simp only [inTypePosition, hbefore, List.map_nil]
  · by_cases hname : next.kind = .identifier
    · simp only [inTypePosition, hbefore, List.map_cons, MarkedLexeme.bare_kind, hname,
        MarkedLexeme.bare_text hname]
    · simp only [inTypePosition, hbefore, List.map_cons, ← List.map_drop, startsWithKind_bare,
        MarkedLexeme.bare_kind]
      split <;> simp_all

@[simp] theorem chainReference?_bare (head : String) (tail : List String)
    (before after : List MarkedLexeme) :
    chainReference? head tail (before.map .bare) (after.map .bare) =
      chainReference? head tail before after := by
  simp only [chainReference?, inTypePosition_bare]

@[simp] theorem literalReference?_bare (literal : String) (before : List MarkedLexeme) :
    literalReference? literal (before.map .bare) = literalReference? literal before := by
  rcases before with - | ⟨p, - | ⟨call, before⟩⟩
  · rfl
  · rfl
  · by_cases hname : call.kind = .identifier
    · simp [literalReference?, hname]
    · simp [literalReference?, hname]

/-- An outline marks the same lexemes with and without places. -/
theorem Outline.mark_bare (o : Outline) (ls : List Lexeme) :
    o.mark (ls.map .bare) = (o.mark ls).map .bare := by
  -- an outline marks positions, which no erasure moves
  refine List.ext_getElem? fun i ↦ ?_
  simp only [mark, List.getElem?_mapIdx, List.getElem?_map, Option.map_map]
  rfl

/-! ### Literals -/

/-- Whether lexemes, the nearest first, stand right before what is passed to a call that looks a
class up. -/
def OpensCall (before : List MarkedLexeme) : Prop :=
  ∃ paren call more, before = paren :: call :: more ∧ paren.kind = .openParen ∧
    (call.kind = .identifier ∧ call.text ∈ reflectiveCalls)

section

variable {before before' rest rest' : List MarkedLexeme} {l l' : MarkedLexeme}

/-- A literal anywhere else refers to nothing. -/
theorem opensCall_of_literalReference? {literal : String} {r : Reference}
    (h : literalReference? literal before = some r) : OpensCall before := by
  rw [literalReference?.eq_def] at h
  split at h
  · next paren call more =>
    split at h
    · next hcall => exact ⟨paren, call, more, rfl, hcall.1, hcall.2.1, by simpa using hcall.2.2⟩
    · cases h
  · cases h

/-- What a literal refers to depends on its text only where it is an argument of a call that looks
up a class. -/
theorem literalReference?_congr {literal literal' : String}
    (hbefore : before.map MarkedLexeme.bare = before'.map MarkedLexeme.bare)
    (hliteral : OpensCall before → literal = literal') :
    literalReference? literal before = literalReference? literal' before' := by
  rw [← literalReference?_bare literal' before', ← hbefore, literalReference?_bare]
  by_cases hcall : OpensCall before
  · rw [hliteral hcall]
  · have hnone (text : String) : literalReference? text before = none :=
      Option.eq_none_iff_forall_ne_some.2 fun r hr ↦ hcall (opensCall_of_literalReference? hr)
    rw [hnone, hnone]

/-- **What a lexeme refers to** depends on the names around it and on its own, and on no literal but
one that is passed to a call. -/
theorem referenceOf?_congr
    (hbefore : before.map MarkedLexeme.bare = before'.map MarkedLexeme.bare)
    (hl : l.bare = l'.bare) (hrest : rest.map MarkedLexeme.bare = rest'.map MarkedLexeme.bare)
    (hliteral : l.kind = .stringLiteral → OpensCall before → l.text = l'.text) :
    referenceOf? before l rest = referenceOf? before' l' rest' := by
  have hkind : l.kind = l'.kind := congrArg (·.kind) hl
  have hclaimed : l.claimed = l'.claimed := congrArg (·.claimed) hl
  have htail : chainTail rest = chainTail rest' := by
    rw [← chainTail_bare rest, hrest, chainTail_bare]
  have hdot : startsWithKind before [.dot] = startsWithKind before' [.dot] := by
    rw [← startsWithKind_bare before, hbefore, startsWithKind_bare]
  rw [referenceOf?, referenceOf?, ← hkind, ← hclaimed, ← htail, ← hdot]
  by_cases hhead : l.kind = .identifier ∧ !startsWithKind before [.dot]
  · have htext : l.text = l'.text := by
      rw [← MarkedLexeme.bare_text hhead.1, hl, MarkedLexeme.bare_text (hkind ▸ hhead.1)]
    have hafter (n : Nat) : (rest.drop n).map MarkedLexeme.bare = (rest'.drop n).map .bare := by
      rw [List.map_drop, hrest, List.map_drop]
    rw [if_pos hhead, if_pos hhead, ← chainReference?_bare _ _ before, hbefore, hafter,
      chainReference?_bare, htext]
  · rw [if_neg hhead, if_neg hhead]
    by_cases hstring : l.kind = .stringLiteral
    · rw [if_pos hstring, if_pos hstring, literalReference?_congr hbefore (hliteral hstring)]
    · rw [if_neg hstring, if_neg hstring]

end

/-- The two nearest elements behind a position, counted from the front. -/
theorem eq_add_two_of_reverse_take {α : Type} {as more : List α} {i : Nat} {a b c : α}
    (h : (as.take i).reverse = b :: a :: more) (hc : as[i]? = some c) :
    i = more.length + 2 ∧ as[more.length]? = some a ∧ as[more.length + 1]? = some b := by
  have htake : as.take i = more.reverse ++ [a, b] := by
    rw [← List.reverse_reverse (as.take i), h]
    simp
  have hi : i = more.length + 2 := by
    have hlength := congrArg List.length htake
    have hlt : i < as.length := (List.getElem?_eq_some_iff.1 hc).1
    rw [List.length_take_of_le hlt.le] at hlength
    simpa using hlength
  have hget (k : Nat) (hk : k < i) : as[k]? = (more.reverse ++ [a, b])[k]? := by
    rw [← htake, List.getElem?_take_of_lt hk]
  refine ⟨hi, ?_, ?_⟩
  · rw [hget _ (by omega)]
    simp
  · rw [hget _ (by omega)]
    simp

/-- **Lexemes that agree but for their literals make the same references**, if they agree in the
literals that are passed to calls. -/
theorem referencesFrom_congr {ms ms' : List MarkedLexeme}
    (h : ms.map MarkedLexeme.bare = ms'.map MarkedLexeme.bare)
    (hliterals : ∀ (i : Nat) (l l' : MarkedLexeme), ms[i]? = some l → ms'[i]? = some l' →
      l.kind = .stringLiteral → OpensCall (ms.take i).reverse → l.text = l'.text) :
    referencesFrom [] ms = referencesFrom [] ms' := by
  have hlength : ms.length = ms'.length := by simpa using congrArg List.length h
  rw [referencesFrom_eq_filterMap, referencesFrom_eq_filterMap, hlength]
  refine List.filterMap_congr fun i hi ↦ ?_
  have hi' : i < ms'.length := List.mem_range.1 hi
  have hl : ms[i]? = some ms[i] := List.getElem?_eq_getElem (hlength ▸ hi')
  have hl' : ms'[i]? = some ms'[i] := List.getElem?_eq_getElem hi'
  rw [referenceAt?, referenceAt?, hl, hl']
  refine referenceOf?_congr ?_ ?_ ?_ (hliterals i _ _ hl hl')
  · rw [List.map_reverse, List.map_reverse, List.map_take, List.map_take, h]
  · have hbare := congrArg (·[i]?) h
    simpa [hl, hl'] using hbare
  · rw [List.map_drop, List.map_drop, h]

/-! ### The scan -/

/-- Whether two lists of lexemes are **alike for a scan**: in their kinds, in the names of their
identifiers, and in the string literals that directly follow an opening parenthesis behind the name
of a call that looks a class up. -/
structure Alike (ls ls' : List Lexeme) : Prop where
  kinds : ls.map (·.kind) = ls'.map (·.kind)
  names : ∀ (i : Nat) (l l' : Lexeme), ls[i]? = some l → ls'[i]? = some l' →
    l.kind = .identifier → l.text = l'.text
  literals : ∀ (i : Nat) (call paren l l' : Lexeme), ls[i]? = some call →
    ls[i + 1]? = some paren → ls[i + 2]? = some l → ls'[i + 2]? = some l' →
    call.kind = .identifier ∧ call.text ∈ reflectiveCalls → paren.kind = .openParen →
    l.kind = .stringLiteral → l.text = l'.text

namespace Alike

variable {ls ls' : List Lexeme}

/-- Lexemes that are alike are the same without their places. -/
theorem map_bare (h : Alike ls ls') : ls.map Lexeme.bare = ls'.map Lexeme.bare := by
  refine List.ext_getElem? fun i ↦ ?_
  have hkind := congrArg (·[i]?) h.kinds
  have hname := h.names i
  simp only [List.getElem?_map] at hkind ⊢
  rcases hl : ls[i]? with - | l <;> rcases hl' : ls'[i]? with - | l' <;>
    simp only [hl, hl'] at hkind
  · rfl
  · cases hkind
  · cases hkind
  · have hsame : l.kind = l'.kind := Option.some.inj hkind
    simp only [Option.map_some, Option.some.injEq, Lexeme.bare, hsame, Lexeme.mk.injEq, true_and,
      and_true]
    by_cases hidentifier : l.kind = .identifier
    · rw [hname l l' hl hl' hidentifier]
    · rw [if_neg (hsame ▸ hidentifier), if_neg (hsame ▸ hidentifier)]

/-- The references under one outline are the same. -/
theorem referencesFrom_mark (h : Alike ls ls') (o : Outline) :
    referencesFrom [] (o.mark ls) = referencesFrom [] (o.mark ls') := by
  have hplain {ls : List Lexeme} {i : Nat} {m : MarkedLexeme} (hm : (o.mark ls)[i]? = some m) :
      ls[i]? = some m.toLexeme := by
    rw [Outline.mark, List.getElem?_mapIdx] at hm
    obtain ⟨l, hl, rfl⟩ := Option.map_eq_some_iff.1 hm
    exact hl
  refine referencesFrom_congr ?_ ?_
  · rw [← o.mark_bare, h.map_bare, o.mark_bare]
  · rintro i m m' hm hm' hkind ⟨paren, call, more, hbehind, hparen, hcall⟩
    obtain ⟨rfl, hcall', hparen'⟩ := eq_add_two_of_reverse_take hbehind hm
    exact h.literals _ _ _ _ _ (hplain hcall') (hplain hparen') (hplain hm) (hplain hm') hcall
      hparen hkind

end Alike

/-- **Lexemes that are alike for a scan come to the same**: the same facts, or errors that differ in
the place only. -/
theorem scanLexemes_eq_of_alike {ls ls' : List Lexeme} (h : Alike ls ls') :
    (scanLexemes ls).mapError ScanError.unplaced =
      (scanLexemes ls').mapError ScanError.unplaced := by
  have houtline : (outline ls).mapError ScanError.unplaced =
      (outline ls').mapError ScanError.unplaced := by
    rw [← outline_bare, h.map_bare, outline_bare]
  rw [scanLexemes, scanLexemes]
  revert houtline
  rcases outline ls with e | o <;> rcases outline ls' with e' | o' <;> intro houtline
  · exact congrArg Except.error (Except.error.inj houtline)
  · cases houtline
  · cases houtline
  · obtain rfl : o = o' := Except.ok.inj houtline
    show Except.ok (o.facts _) = Except.ok (o.facts _)
    rw [h.referencesFrom_mark o]

/-- **A scan looks at kinds and texts only.** -/
theorem scanLexemes_congr {ls ls' : List Lexeme}
    (h : ls.map Lexeme.token = ls'.map Lexeme.token) :
    (scanLexemes ls).mapError ScanError.unplaced =
      (scanLexemes ls').mapError ScanError.unplaced := by
  have htext (i : Nat) (l l' : Lexeme) (hl : ls[i]? = some l) (hl' : ls'[i]? = some l') :
      l.text = l'.text := by
    have htoken := congrArg (·[i]?) h
    simp only [List.getElem?_map, hl, hl'] at htoken
    exact congrArg Prod.snd (Option.some.inj htoken)
  refine scanLexemes_eq_of_alike ⟨?_, fun i l l' hl hl' _ ↦ htext i l l' hl hl',
    fun i _ _ l l' _ _ hl hl' _ _ _ ↦ htext (i + 2) l l' hl hl'⟩
  simpa [Function.comp_def, Lexeme.token] using congrArg (List.map Prod.fst) h

/-- **The contents of literals are inert.** Two sources whose tokens are of the same kinds, with the
same identifiers and the same literals that are passed to calls, come to the same facts, or to
errors that differ in the place only, whatever the other literals and the comments hold. -/
theorem scan_eq_of_alike {source source' : String} {ls ls' : List Lexeme}
    (h : lexemes source = .ok ls) (h' : lexemes source' = .ok ls') (halike : Alike ls ls') :
    (scan source).mapError ScanError.unplaced = (scan source').mapError ScanError.unplaced := by
  rw [scan, scan, h, h']
  exact scanLexemes_eq_of_alike halike

/-- Two sources that differ in a comment and in a literal that is passed to no call. -/
theorem scan_eq_of_alike_forName :
    lexemes "forName(\"a.B\" + \"c.D\")" =
        .ok [⟨.identifier, "forName", 0⟩, ⟨.openParen, "(", 7⟩, ⟨.stringLiteral, "\"a.B\"", 8⟩,
          ⟨.operator, "+", 14⟩, ⟨.stringLiteral, "\"c.D\"", 16⟩, ⟨.closeParen, ")", 21⟩] ∧
      (scan "forName(\"a.B\" + \"c.D\")").mapError ScanError.unplaced =
        (scan "forName(/* */\"a.B\"+\"\")").mapError ScanError.unplaced := by
  have h : lexemes "forName(\"a.B\" + \"c.D\")" =
      .ok [⟨.identifier, "forName", 0⟩, ⟨.openParen, "(", 7⟩, ⟨.stringLiteral, "\"a.B\"", 8⟩,
        ⟨.operator, "+", 14⟩, ⟨.stringLiteral, "\"c.D\"", 16⟩, ⟨.closeParen, ")", 21⟩] := by
    decide +kernel
  have h' : lexemes "forName(/* */\"a.B\"+\"\")" =
      .ok [⟨.identifier, "forName", 0⟩, ⟨.openParen, "(", 7⟩, ⟨.stringLiteral, "\"a.B\"", 13⟩,
        ⟨.operator, "+", 18⟩, ⟨.stringLiteral, "\"\"", 19⟩, ⟨.closeParen, ")", 21⟩] := by
    decide +kernel
  refine ⟨h, scan_eq_of_alike h h' ⟨rfl, fun i l l' hl hl' hname ↦ ?_,
    fun i call paren l l' hcall _ hl hl' hname _ _ ↦ ?_⟩⟩
  · -- only the first token is a name
    rcases i with - | - | - | - | - | - | i <;> cases hl <;> cases hl' <;>
      first | rfl | cases hname
  · rcases i with - | - | - | - | i <;> cases hl <;> cases hl' <;> cases hcall <;>
      first | rfl | cases hname.1

end JavaDeps.Java
