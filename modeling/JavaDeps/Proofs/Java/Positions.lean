import JavaDeps.Java.Scan

/-!
# Reading by position

The two readings of a compilation unit are recursions on the lexemes ahead, and what they look at
stands in front of them or right behind. Here both are said once more as **walks of a position over
the list of all lexemes**: a walk looks at other positions too, claims positions, counts brackets,
and moves on by several positions at once.

Nothing holds a walk back, so it may go wrong (`WalkFault`): at a position without a lexeme, at a
depth of zero that is taken from, or by a step that does not move on. Asking for the kind of a
lexeme that may not be there, as `kindAt?` does, is no fault.
-/

namespace JavaDeps.Java

/-- How a walk goes wrong. -/
inductive WalkFault where
  /-- A position without a lexeme is looked at, claimed or moved to. -/
  | outOfRange
  /-- A depth of zero is taken from. -/
  | negativeDepth
  /-- A step does not move on. -/
  | standstill
  deriving DecidableEq, Repr

/-- What a walk comes to, unless it goes wrong. -/
abbrev Walked := Except WalkFault

/-! ### Walks -/

/-- What a step comes to: the walk goes on at a position, or it ends. -/
inductive WalkStep (σ ρ : Type) where
  | move (position : Nat) (s : σ)
  | done (result : ρ)

/-- Walks on from a position, in a list of `n` lexemes. Only a step that moves on within the list,
or to its end, is taken. -/
def walk {σ ρ : Type} (n : Nat) (step : Nat → σ → Walked (WalkStep σ ρ)) (i : Nat) (s : σ) :
    Walked ρ :=
  match step i s with
  | .error fault => .error fault
  | .ok (.done result) => .ok result
  | .ok (.move j t) =>
    if i < j then
      if j ≤ n then walk n step j t else .error .outOfRange
    else .error .standstill
termination_by n - i

/-- Looks at a position. -/
def lookAt {α : Type} (as : List α) (i : Nat) : Walked α :=
  match as[i]? with
  | some a => .ok a
  | none => .error .outOfRange

/-- Takes one from a depth. -/
def lower : Nat → Walked Nat
  | 0 => .error .negativeDepth
  | depth + 1 => .ok depth

section

variable (ls : List Lexeme)

/-- The kind of the lexeme at a position, if there is one. -/
def kindAt? (i : Nat) : Option TokenKind := ls[i]?.map (·.kind)

/-- The kind of the lexeme before a position, if there is one. -/
def kindBefore? : Nat → Option TokenKind
  | 0 => none
  | i + 1 => kindAt? ls i

/-- Sees to it that positions can be claimed: from `start` on, before `stop`. -/
def claimable (start stop : Nat) : Walked Unit :=
  if start ≤ stop ∧ stop ≤ ls.length then .ok () else .error .outOfRange

/-! ### Names -/

/-- Goes on behind a segment, or behind the star. -/
def afterSegment (i : Nat) (path : NamePath) : WalkStep NamePath (Except Nat (NamePath × Nat)) :=
  match kindAt? ls i with
  | some .dot => if path.wildcard then .done (.error i) else .move (i + 1) path
  | some .semicolon => .done (.ok (path, i + 1))
  | _ => .done (.error i)

/-- Takes in a segment, or the star. -/
def nameStep (i : Nat) (path : NamePath) :
    Walked (WalkStep NamePath (Except Nat (NamePath × Nat))) :=
  match ls[i]? with
  | none => .ok (.done (.error i))
  | some l =>
    if l.kind = .identifier ∧ path.wildcard = false then
      .ok (afterSegment ls (i + 1) { path with segments := path.segments ++ [l.text] })
    else if l.kind = .star ∧ path.segments ≠ [] then
      .ok (afterSegment ls (i + 1) { path with wildcard := true })
    else .ok (.done (.error i))

/-- The name at a position with the position behind its semicolon, or the position where it goes
wrong. -/
def nameAt (i : Nat) : Walked (Except Nat (NamePath × Nat)) :=
  walk ls.length (nameStep ls) i ⟨[], false⟩

/-! ### Statements -/

/-- The offset to blame at a position: that of its lexeme, or else of the last one. -/
def blameAt (i : Nat) : Nat := ((ls[i]?.or ls.getLast?).map (·.offset)).getD 0

/-- The import whose keyword stands at a position and whose name starts at another one. -/
def importAt (isStatic : Bool) (i start : Nat) : Walked (Except ScanError (Statement × Nat)) := do
  match ← nameAt ls start with
  | .error wrong => return .error (.malformed .importing (blameAt ls wrong))
  | .ok (path, next) =>
    claimable ls i next
    return .ok (.importing ⟨isStatic, path⟩, next)

/-- The statement whose keyword stands at a position, with the position behind it. -/
def statementAt (kind : StatementKind) (i : Nat) : Walked (Except ScanError (Statement × Nat)) :=
  match kind with
  | .package => do
    match ← nameAt ls (i + 1) with
    | .error wrong => return .error (.malformed .package (blameAt ls wrong))
    | .ok (path, next) =>
      if path.wildcard then
        let l ← lookAt ls i
        return .error (.malformed .package l.offset)
      claimable ls i next
      return .ok (.package path.segments, next)
  | .importing =>
    let isStatic := kindAt? ls (i + 1) == some .staticWord
    importAt ls isStatic i (if isStatic then i + 2 else i + 1)

/-! ### Declarations and type parameters -/

/-- Takes in the name of a declaration, if there is one at a position. -/
def declareAt (o : Outline) (topLevel : Bool) (i : Nat) : Walked Outline :=
  match ls[i]? with
  | none => .ok o
  | some name =>
    if name.kind ≠ .identifier then .ok o
    else do
      claimable ls i (i + 1)
      return o.declare topLevel i [name]

/-- Whether a `<` at a position opens a list of type parameters. -/
def opensTypeParametersAt (i : Nat) : Walked Bool :=
  if i < 1 then .ok false
  else do
    let previous ← lookAt ls (i - 1)
    match previous.kind with
    | .identifier =>
      if modifiers.contains previous.text then return true
      else if i < 2 then return false
      else
        let before ← lookAt ls (i - 2)
        return before.kind == .classWord || before.kind == .interfaceWord || before.isWord "record"
    | .staticWord | .openBrace | .closeBrace | .semicolon => return true
    | _ => return false

/-- Goes on in a list of type parameters, with the depth of brackets and the parameters found. -/
def typeParameterStep (i : Nat) (s : Nat × List (Nat × String)) :
    Walked (WalkStep (Nat × List (Nat × String)) (List (Nat × String))) :=
  match ls[i]? with
  | none => .ok (.done s.2)
  | some l =>
    match l.kind with
    | .less => .ok (.move (i + 1) (s.1 + 1, s.2))
    | .greater => do
      let depth ← lower s.1
      return if depth = 0 then .done s.2 else .move (i + 1) (depth, s.2)
    | .identifier =>
      if s.1 = 1 ∧ (kindBefore? ls i = some .less ∨ kindBefore? ls i = some .comma) then do
        claimable ls i (i + 1)
        return .move (i + 1) (s.1, s.2 ++ [(i, l.text)])
      else .ok (.move (i + 1) s)
    | .openBrace | .semicolon | .openParen => .ok (.done s.2)
    | _ => .ok (.move (i + 1) s)

/-- The type parameters of the list that opens at a position, with their positions. -/
def typeParametersAt (i : Nat) : Walked (List (Nat × String)) :=
  walk ls.length (typeParameterStep ls) i (0, [])

/-- Takes in the type parameters of the list that opens at a position. -/
def parametrizeAt (o : Outline) (i : Nat) : Walked Outline := do
  let found ← typeParametersAt ls i
  return { o with
    claimed := found.map (·.1) ++ o.claimed
    typeParameters := found.map (·.2) ++ o.typeParameters }

/-- Whether a lexeme at a position is the keyword of a declaration. -/
def declaresAt (l : Lexeme) (i : Nat) : Bool :=
  kindBefore? ls i != some .dot &&
    match l.kind with
    | .classWord | .interfaceWord | .enumWord => true
    | .identifier =>
      l.text == "record" && kindAt? ls (i + 1) == some .identifier &&
        (kindAt? ls (i + 2) == some .openParen || kindAt? ls (i + 2) == some .less)
    | _ => false

/-- Takes in a lexeme that is neither a brace nor a statement's keyword. -/
def noteAt (o : Outline) (topLevel : Bool) (l : Lexeme) (i : Nat) : Walked Outline := do
  if declaresAt ls l i then declareAt ls o topLevel (i + 1)
  else if l.kind ≠ .less then return o
  else if ← opensTypeParametersAt ls i then parametrizeAt ls o i
  else return o

/-! ### The first reading -/

/-- Takes in the lexeme or the statement at a position, with the number of open braces. -/
def outlineStep (i : Nat) (s : Nat × Outline) :
    Walked (WalkStep (Nat × Outline) (Except ScanError Outline)) :=
  if i < ls.length then do
    let l ← lookAt ls i
    match l.kind with
    | .openBrace => return .move (i + 1) (s.1 + 1, s.2)
    | .closeBrace =>
      if s.1 = 0 then return .done (.error (.unbalancedBraces l.offset))
      return .move (i + 1) (← lower s.1, s.2)
    | kind =>
      match statementKind? s.1 kind with
      | some statement =>
        match ← statementAt ls statement i with
        | .error e => return .done (.error e)
        | .ok (read, next) => return .move next (s.1, (s.2.state read).claim i (next - i))
      | none => return .move (i + 1) (s.1, ← noteAt ls s.2 (s.1 == 0) l i)
  else
    match ls.getLast? with
    | none => .ok (.done (.ok s.2))
    | some last =>
      .ok (.done (if s.1 = 0 then .ok s.2 else .error (.unbalancedBraces last.offset)))

/-- The outline, read by position. -/
def outlineAt : Walked (Except ScanError Outline) := walk ls.length (outlineStep ls) 0 (0, {})

/-! ### Chains -/

/-- Takes in a dot and a segment. -/
def chainStep (i : Nat) (segments : List String) : Walked (WalkStep (List String) (List String)) :=
  if kindAt? ls i = some .dot ∧ kindAt? ls (i + 1) = some .identifier then do
    let l ← lookAt ls (i + 1)
    return .move (i + 2) (segments ++ [l.text])
  else .ok (.done segments)

/-- The chain whose head stands at a position: the head, and the segments that follow. -/
def chainAt (i : Nat) : Walked (String × List String) := do
  let head ← lookAt ls i
  return (head.text, ← walk ls.length (chainStep ls) (i + 1) [])

/-- Whether a word that a type follows stands before a position. -/
def afterTypeWordAt (start : Nat) : Walked Bool :=
  if start < 1 then .ok false
  else do
    let previous ← lookAt ls (start - 1)
    return previous.kind == .identifier && typeWords.contains previous.text

/-- Whether the kinds around what stands from `start` on, before `stop`, leave room for a type
only. -/
def amongTypesAt (start stop : Nat) : Bool :=
  let previous := kindBefore? ls start
  let more := kindAt? ls (stop + 1)
  let last := kindAt? ls (stop + 2)
  match ls[stop]? with
  | none => false
  | some next =>
    match next.kind with
    | .greater =>
      previous == some .less || previous == some .comma &&
        (more == some .identifier || more == some .greater || more == some .closeParen)
    | .comma => previous == some .less
    | .identifier => next.text != "instanceof"
    | .ellipsis | .methodRef => true
    | .openBracket => more == some .closeBracket
    | .dot => more == some .classWord
    | .less =>
      more == some .greater || more == some .operator || more == some .identifier &&
        (last == some .greater || last == some .comma || last == some .less)
    | _ => false

/-- Whether what stands from `start` on, before `stop`, can only be a type. -/
def inTypePositionAt (start stop : Nat) : Walked Bool := do
  if ← afterTypeWordAt ls start then return true
  return amongTypesAt ls start stop

/-- Whether a name is a type, shown to be one by itself or by its place. -/
def isTypeAt (shown : Bool) (start stop : Nat) : Walked Bool :=
  if shown then .ok true else inTypePositionAt ls start stop

/-- The reference that the chain at a position makes. -/
def chainReferenceAt (i : Nat) (head : String) (tail : List String) : Walked (Option Reference) :=
  let stop := i + 1 + 2 * tail.length
  if isCapitalized head then do
    return if ← isTypeAt ls (hasLowercase head) i stop then some (.simple head) else none
  else if selfWords.contains head then .ok none
  else
    let packages := (head :: tail).takeWhile (!isCapitalized ·)
    match (head :: tail).drop packages.length with
    | [] => .ok none
    | type :: members => do
      let isType ← isTypeAt ls (hasLowercase type || !members.isEmpty) i stop
      return if 2 ≤ packages.length && isType then some (.qualified (dotted (packages ++ [type])))
        else none

/-- The reference that a literal at a position makes, as the argument of a reflective call. -/
def literalReferenceAt (literal : String) (i : Nat) : Walked (Option Reference) :=
  if 2 ≤ i ∧ kindBefore? ls i = some .openParen then do
    let call ← lookAt ls (i - 2)
    return if call.kind = .identifier ∧ reflectiveCalls.contains call.text then
      (className? literal).map .reflective else none
  else .ok none

/-! ### The second reading -/

/-- Takes in the lexeme or the chain at a position. There is a claim for each lexeme. -/
def referenceStep (claimed : List Bool) (i : Nat) (found : List Reference) :
    Walked (WalkStep (List Reference) (List Reference)) :=
  if i < ls.length then do
    let l ← lookAt ls i
    if ← lookAt claimed i then return .move (i + 1) found
    if l.kind = .identifier ∧ kindBefore? ls i ≠ some .dot then
      let (head, tail) ← chainAt ls i
      let reference ← chainReferenceAt ls i head tail
      return .move (i + (2 * (tail.length + 1) - 1)) (found ++ reference.toList)
    if l.kind = .stringLiteral then
      let reference ← literalReferenceAt ls l.text i
      return .move (i + 1) (found ++ reference.toList)
    return .move (i + 1) found
  else .ok (.done found)

/-- The references, read by position. -/
def referencesAt (claimed : List Bool) : Walked (List Reference) :=
  walk ls.length (referenceStep ls claimed) 0 []

/-- For each lexeme, whether the outline claimed it. -/
def Outline.claims (o : Outline) : List Bool :=
  (List.range ls.length).map fun i ↦ o.claimed.contains i

/-- The facts, read by position. -/
def scanAt : Walked (Except ScanError Facts) := do
  match ← outlineAt ls with
  | .error e => return .error e
  | .ok o => return .ok (o.facts (← referencesAt ls (o.claims ls)))

end

end JavaDeps.Java
