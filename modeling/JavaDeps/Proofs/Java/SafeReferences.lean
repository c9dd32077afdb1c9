import JavaDeps.Proofs.Java.Chains
import JavaDeps.Proofs.Java.SafeOutline

/-!
# Reading references by position goes well

The second reading looks at lexemes and at the claims on them, behind and up to three ahead, and
moves on over whole chains. **It goes well, too**, and comes to the references that the recursion on
the lexemes ahead finds.

With the first reading this is all of it: **whatever the lexemes are, both walks move on at every
step, look at no position out of range, and take from no depth of zero** (`scanAt_eq`).
-/

namespace JavaDeps.Java

section

variable {ms before rest : List MarkedLexeme} {l : MarkedLexeme}

/-! ### What stands at a position -/

@[simp] theorem length_plain (ms : List MarkedLexeme) : (plain ms).length = ms.length :=
  List.length_map ..

theorem plain_ahead (hms : ms = before.reverse ++ rest) :
    plain ms = (plain before).reverse ++ plain rest := by
  rw [hms, plain_append, ← plain_reverse_reverse before.reverse, List.reverse_reverse]

theorem getElem?_marked (hms : ms = before.reverse ++ rest) (k : Nat) :
    (plain ms)[before.length + k]? = rest[k]?.map (·.toLexeme) := by
  have hat := getElem?_ahead (plain_ahead hms) k
  rw [length_plain] at hat
  rw [hat, plain, List.getElem?_map]

theorem kindAt?_marked (hms : ms = before.reverse ++ rest) (k : Nat) :
    kindAt? (plain ms) (before.length + k) = rest[k]?.map (·.kind) := by
  rw [kindAt?, getElem?_marked hms, Option.map_map]
  rfl

/-- The kind found behind a position is that of the last lexeme passed. -/
theorem kindBefore?_marked (hms : ms = before.reverse ++ rest) :
    kindBefore? (plain ms) before.length = before.head?.map (·.kind) := by
  have hat := kindBefore?_eq (plain_ahead hms)
  rw [length_plain] at hat
  rw [hat]
  cases before <;> rfl

theorem lookAt_marked (hms : ms = before.reverse ++ l :: rest) :
    lookAt (plain ms) before.length = .ok l.toLexeme := by
  have hat : (plain ms)[before.length]? = some l.toLexeme := getElem?_marked hms 0
  rw [lookAt, hat]

/-- To look at the mark of a lexeme is in range: there are as many marks as lexemes. -/
theorem lookAt_claimed (hms : ms = before.reverse ++ l :: rest) :
    lookAt (ms.map (·.claimed)) before.length = .ok l.claimed := by
  have hat : (ms.map (·.claimed))[before.length]? = some l.claimed := by
    rw [hms, List.getElem?_map, List.getElem?_append_right (by simp)]
    simp
  rw [lookAt, hat]

theorem length_marked (hms : ms = before.reverse ++ rest) :
    before.length + rest.length = (plain ms).length := by
  rw [length_plain, hms, List.length_append, List.length_reverse]

/-- A step over one lexeme is taken. -/
theorem walk_marked {σ ρ : Type} {step : Nat → σ → Walked (WalkStep σ ρ)} {s t : σ}
    (hms : ms = before.reverse ++ l :: rest)
    (h : step before.length s = .ok (.move (before.length + 1) t)) :
    walk (plain ms).length step before.length s =
      walk (plain ms).length step (l :: before).length t := by
  have hlength := length_marked (ahead_cons.2 hms)
  exact walk_of_move h (Nat.lt_succ_self _) (hlength ▸ Nat.le_add_right ..)

/-! ### Chains -/

/-- A chain ends before the lexemes do. -/
theorem length_chainTail_le (ms : List MarkedLexeme) : 2 * (chainTail ms).length ≤ ms.length := by
  fun_induction chainTail ms with
  | case1 d s rest h ih =>
    simp only [List.length_cons]
    omega
  | case2 | case3 => exact Nat.zero_le _

/-- A walk along a chain finds its segments, and stays in range. -/
theorem walk_chainStep (rest : List MarkedLexeme) :
    ∀ (before : List MarkedLexeme) (segments : List String), ms = before.reverse ++ rest →
      walk (plain ms).length (chainStep (plain ms)) before.length segments =
        .ok (segments ++ chainTail rest) := by
  fun_induction chainTail rest with
  | case1 d s rest h ih =>
    intro before segments hms
    have hms' : ms = (d :: before).reverse ++ s :: rest := ahead_cons.2 hms
    have hlength := length_marked hms
    simp only [List.length_cons] at hlength
    have hdot : kindAt? (plain ms) before.length = some .dot := by
      rw [← h.1]
      exact kindAt?_marked hms 0
    have hname : kindAt? (plain ms) (before.length + 1) = some .identifier := by
      rw [← h.2]
      exact kindAt?_marked hms 1
    have hat : lookAt (plain ms) (before.length + 1) = .ok s.toLexeme := lookAt_marked hms'
    have hstep : chainStep (plain ms) before.length segments =
        .ok (.move (before.length + 2) (segments ++ [s.text])) := by
      rw [chainStep, if_pos ⟨hdot, hname⟩, hat]
      rfl
    rw [walk_of_move hstep (by omega) (by omega)]
    refine (ih (s :: d :: before) _ (ahead_cons.2 hms')).trans ?_
    rw [List.append_assoc]
    rfl
  | case2 d s rest h =>
    intro before segments hms
    refine walk_of_done ?_
    have hdot : kindAt? (plain ms) before.length = some d.kind := kindAt?_marked hms 0
    have hname : kindAt? (plain ms) (before.length + 1) = some s.kind := kindAt?_marked hms 1
    rw [chainStep, hdot, hname, List.append_nil, if_neg (by simpa using h)]
  | case3 rest h =>
    intro before segments hms
    refine walk_of_done ?_
    have hname : kindAt? (plain ms) (before.length + 1) = rest[1]?.map (·.kind) :=
      kindAt?_marked hms 1
    have hnone : rest[1]? = none := by
      rcases rest with - | ⟨d, - | ⟨s, rest⟩⟩
      · rfl
      · rfl
      · exact (h d s rest rfl).elim
    rw [chainStep, hname, hnone, List.append_nil, if_neg (by simp)]

/-- **The chain at a position is the one ahead.** -/
theorem chainAt_eq (hms : ms = before.reverse ++ l :: rest) :
    chainAt (plain ms) before.length = .ok (l.text, chainTail rest) := by
  have htail := walk_chainStep rest (l :: before) [] (ahead_cons.2 hms)
  rw [List.length_cons, List.nil_append] at htail
  rw [chainAt, lookAt_marked hms, walked_bind, htail]
  rfl

/-! ### Where only a type can stand -/

@[simp] theorem startsWithKind_nil_right (ms : List MarkedLexeme) :
    startsWithKind ms [] = false := by
  cases ms <;> rfl

/-- One of several kinds stands first if the first of them does, or one of the others. -/
theorem startsWithKind_cons_right (ms : List MarkedLexeme) (kind : TokenKind)
    (kinds : List TokenKind) :
    startsWithKind ms (kind :: kinds) =
      (ms.head?.map (·.kind) == some kind || startsWithKind ms kinds) := by
  cases ms with
  | nil => rfl
  | cons l ms => exact List.contains_cons

/-- Both readings agree on whether a word before a chain shows that it is a type. -/
theorem afterTypeWordAt_eq (hms : ms = before.reverse ++ rest) :
    afterTypeWordAt (plain ms) before.length =
      .ok (before.head?.any fun l ↦ l.kind == .identifier && typeWords.contains l.text) := by
  rcases before with - | ⟨previous, before⟩
  · rfl
  have hat : lookAt (plain ms) before.length = .ok previous.toLexeme :=
    lookAt_marked (ahead_cons.1 hms)
  rw [afterTypeWordAt, if_neg (by simp), List.length_cons, Nat.add_sub_cancel, hat]
  rfl

section

variable {behind after : List MarkedLexeme}

/-- Both readings agree on whether a chain stands where a type does. -/
theorem inTypePositionAt_eq (hbefore : ms = before.reverse ++ rest)
    (hbehind : ms = behind.reverse ++ after) :
    inTypePositionAt (plain ms) before.length behind.length =
      .ok (inTypePosition before after) := by
  have hnext : (plain ms)[behind.length]? = after[0]?.map (·.toLexeme) := getElem?_marked hbehind 0
  rw [inTypePositionAt, afterTypeWordAt_eq hbefore, walked_bind, inTypePosition.eq_def]
  split
  · next h => rw [h, walked_pure, Bool.true_or]
  next h =>
  rw [Bool.eq_false_iff.2 h, Bool.false_or, walked_pure, amongTypesAt, hnext,
    kindBefore?_marked hbefore, kindAt?_marked hbehind, kindAt?_marked hbehind]
  rcases after with - | ⟨next, more⟩
  · rfl
  simp only [List.getElem?_cons_zero, Option.map_some, List.getElem?_cons_succ]
  cases next.kind <;>
    simp only [startsWithKind_cons_right, startsWithKind_nil_right, Bool.or_false,
      List.head?_eq_getElem?, List.getElem?_drop, Bool.or_assoc]

/-- Both readings agree on whether a chain is shown to be a type, by its name or by its place. -/
theorem isTypeAt_eq (hbefore : ms = before.reverse ++ rest) (hbehind : ms = behind.reverse ++ after)
    (shown : Bool) :
    isTypeAt (plain ms) shown before.length behind.length =
      .ok (shown || inTypePosition before after) := by
  cases shown with
  | true => rfl
  | false => exact inTypePositionAt_eq hbefore hbehind

/-- **A chain refers to the same by position as between the lexemes around it.** -/
theorem chainReferenceAt_eq {head : String} {tail : List String}
    (hbefore : ms = before.reverse ++ rest) (hbehind : ms = behind.reverse ++ after)
    (hstop : before.length + 1 + 2 * tail.length = behind.length) :
    chainReferenceAt (plain ms) before.length head tail =
      .ok (chainReference? head tail before after) := by
  rw [chainReferenceAt, chainReference?, hstop]
  simp only [isTypeAt_eq hbefore hbehind, walked_bind, walked_pure]
  split
  · rfl
  split
  · rfl
  cases (head :: tail).drop ((head :: tail).takeWhile (!isCapitalized ·)).length <;> rfl

end

/-- Both readings agree on what a literal refers to. -/
theorem literalReferenceAt_eq (hms : ms = before.reverse ++ rest) (literal : String) :
    literalReferenceAt (plain ms) literal before.length =
      .ok (literalReference? literal before) := by
  rw [literalReferenceAt, kindBefore?_marked hms]
  rcases before with - | ⟨p, - | ⟨call, before⟩⟩
  · rfl
  · rfl
  have hcall : lookAt (plain ms) before.length = .ok call.toLexeme :=
    lookAt_marked (ahead_cons.1 (ahead_cons.1 hms))
  rw [literalReference?]
  by_cases hopen : p.kind = .openParen
  · have hat : (p :: call :: before).length - 2 = before.length := rfl
    rw [if_pos ⟨by simp, by simp [hopen]⟩, hat, hcall, walked_bind, walked_pure]
    simp only [hopen, true_and]
  · rw [if_neg (by simp [hopen]), if_neg fun h ↦ hopen h.1]

/-! ### The second reading -/

theorem referenceStep_nil (claimed : List Bool) (found : List Reference) :
    referenceStep (plain ms) claimed (plain ms).length found = .ok (.done found) :=
  if_neg (Nat.lt_irrefl _)

/-- A step takes in the lexeme, or the chain that it heads. -/
theorem referenceStep_cons (hms : ms = before.reverse ++ l :: rest) (found : List Reference) :
    referenceStep (plain ms) (ms.map (·.claimed)) before.length found =
      .ok (if l.claimed then .move (before.length + 1) found
        else if l.kind = .identifier ∧ !startsWithKind before [.dot] then
          .move (before.length + 1 + 2 * (chainTail rest).length)
            (found ++ (chainReference? l.text (chainTail rest) before
              (rest.drop (2 * (chainTail rest).length))).toList)
        else if l.kind = .stringLiteral then
          .move (before.length + 1) (found ++ (literalReference? l.text before).toList)
        else .move (before.length + 1) found) := by
  have hlength := length_marked hms
  rw [List.length_cons] at hlength
  have htail := length_chainTail_le rest
  have hchain : chainReferenceAt (plain ms) before.length l.text (chainTail rest) =
      .ok (chainReference? l.text (chainTail rest) before
        (rest.drop (2 * (chainTail rest).length))) := by
    have hbehind :
        ms = ((rest.take (2 * (chainTail rest).length)).reverse ++ l :: before).reverse ++
          rest.drop (2 * (chainTail rest).length) := by
      simpa using hms
    refine chainReferenceAt_eq hms hbehind ?_
    rw [List.length_append, List.length_reverse, List.length_take_of_le htail, List.length_cons]
    omega
  have hdot : kindBefore? (plain ms) before.length ≠ some .dot ↔
      (!startsWithKind before [.dot]) = true := by
    rw [kindBefore?_marked hms]
    simp [startsWithKind_cons_right]
  rw [referenceStep, if_pos (by omega), lookAt_marked hms, walked_bind, lookAt_claimed hms,
    walked_bind, chainAt_eq hms, literalReferenceAt_eq hms]
  have hjump : before.length + (2 * ((chainTail rest).length + 1) - 1) =
      before.length + 1 + 2 * (chainTail rest).length := by
    omega
  simp only [walked_bind, hchain, walked_pure, hdot, hjump]
  split
  · rfl
  split
  · rfl
  split <;> rfl

/-- **The second reading goes well from any place on.** -/
theorem walk_referenceStep (before rest : List MarkedLexeme) :
    ∀ found : List Reference, ms = before.reverse ++ rest →
      walk (plain ms).length (referenceStep (plain ms) (ms.map (·.claimed))) before.length found =
        .ok (found ++ referencesFrom before rest) := by
  fun_induction referencesFrom before rest with
  | case1 before =>
    intro found hms
    have hlength : before.length = (plain ms).length := length_marked hms
    rw [hlength, List.append_nil]
    exact walk_of_done (referenceStep_nil ..)
  | case2 before l rest hl ih =>
    intro found hms
    have hstep := referenceStep_cons hms found
    rw [if_pos hl] at hstep
    rw [walk_marked hms hstep]
    exact ih found (ahead_cons.2 hms)
  | case3 before l rest hl hhead tail after ih =>
    intro found hms
    have hstep := referenceStep_cons hms found
    rw [if_neg hl, if_pos hhead] at hstep
    have hlength := length_marked hms
    rw [List.length_cons] at hlength
    have htail := length_chainTail_le rest
    -- the chain is jumped over whole
    have hrest := ih (found ++ (chainReference? l.text tail before after).toList)
      (by simpa [after] using hms)
    rw [walk_of_move hstep (by omega) (by omega), ← List.append_assoc, ← hrest]
    congr 1
    rw [List.length_append, List.length_reverse, List.length_take_of_le htail, List.length_cons]
    omega
  | case4 before l rest hl hhead hliteral ih =>
    intro found hms
    have hstep := referenceStep_cons hms found
    rw [if_neg hl, if_neg hhead, if_pos hliteral] at hstep
    rw [walk_marked hms hstep, ← List.append_assoc]
    exact ih _ (ahead_cons.2 hms)
  | case5 before l rest hl hhead hliteral ih =>
    intro found hms
    have hstep := referenceStep_cons hms found
    rw [if_neg hl, if_neg hhead, if_neg hliteral] at hstep
    rw [walk_marked hms hstep]
    exact ih found (ahead_cons.2 hms)

end

/-! ### Both readings -/

theorem Outline.plain_mark (o : Outline) (ls : List Lexeme) : plain (o.mark ls) = ls := by
  refine List.ext_getElem? fun i ↦ ?_
  rw [plain, Outline.mark, List.getElem?_map, List.getElem?_mapIdx, Option.map_map]
  exact Option.map_id' ..

theorem Outline.claims_eq (o : Outline) (ls : List Lexeme) :
    o.claims ls = (o.mark ls).map (·.claimed) := by
  refine List.ext_getElem (by simp [Outline.claims, Outline.mark]) fun i _ _ ↦ ?_
  simp [Outline.claims, Outline.mark]

/-- **The second reading by position goes well**, and finds the references. -/
theorem referencesAt_eq (o : Outline) (ls : List Lexeme) :
    referencesAt ls (o.claims ls) = .ok (referencesFrom [] (o.mark ls)) := by
  have hms : o.mark ls = [].reverse ++ o.mark ls := rfl
  have hwalk := walk_referenceStep [] (o.mark ls) [] hms
  rw [o.plain_mark, ← o.claims_eq] at hwalk
  exact hwalk

/-- **Reading by position never goes wrong**: for all lexemes it comes to what scanning them comes
to. Every step moves on, nothing out of range is looked at or claimed, and no depth of zero is taken
from. -/
theorem scanAt_eq (ls : List Lexeme) : scanAt ls = .ok (scanLexemes ls) := by
  rw [scanAt, outlineAt_eq, walked_bind, scanLexemes]
  cases outline ls with
  | error e => rfl
  | ok o =>
    dsimp only
    rw [referencesAt_eq, walked_bind]
    rfl

end JavaDeps.Java
