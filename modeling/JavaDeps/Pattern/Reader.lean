import JavaDeps.Pattern.Matching

/-!
# The notation of patterns

A text is read as a pattern in the usual notation: literals, classes in brackets with set
operations, groups with flags, repetitions, and assertions. There are no references back and no
looking around, and a brace always counts repetitions.

Reading goes through the text once. Open groups are kept on a stack; the flags in force are part of
the state, for they last until the end of their group.
-/

namespace JavaDeps.Pattern

/-- The flags in force where a part of a pattern is read. A group leaves them behind at its end. -/
structure Flags where
  caseless : Bool := false
  multiLine : Bool := false
  dotAll : Bool := false
  crlf : Bool := false
  unicode : Bool := true
  /-- Whether white space and comments in the pattern are skipped. -/
  verbose : Bool := false
  deriving DecidableEq, Repr

/-- Drops white space and comments; `inComment` says whether a comment is being read, which lasts to
the end of its line. -/
def skipVerbose (inComment : Bool) : List Char → List Char
  | [] => []
  | c :: rest =>
    if inComment then skipVerbose (c != '\n') rest
    else if c = '#' then skipVerbose true rest
    else if Unicode.isWhiteSpace c then skipVerbose false rest
    else c :: rest

/-- Drops what verbose notation skips, if it is in force. -/
def skipBlanks (f : Flags) (cs : List Char) : List Char :=
  if f.verbose then skipVerbose false cs else cs

/-! ### Escapes -/

/-- What an escape stands for. -/
inductive Escaped where
  | literal (c : Char)
  | set (s : CharSet)
  | assertion (a : Assertion)

/-- The value of a hexadecimal digit. -/
def hexDigit? (c : Char) : Option Nat :=
  if c.isDigit then some (c.toNat - '0'.toNat)
  else if 'a' ≤ c ∧ c ≤ 'f' then some (c.toNat - 'a'.toNat + 10)
  else if 'A' ≤ c ∧ c ≤ 'F' then some (c.toNat - 'A'.toNat + 10)
  else none

/-- The character with a code point given in hexadecimal digits. -/
def hexChar? (digits : List Char) : Option Char := do
  guard !digits.isEmpty
  let n ← digits.foldlM (fun n c ↦ (hexDigit? c).map (16 * n + ·)) 0
  if n.isValidChar then some (Char.ofNat n) else none

/-- The character that a code point in digits stands for, after the letter that announces so many
digits; or any number of them in braces. -/
def hexEscape? (count : Nat) (cs : List Char) : Option (Char × List Char) :=
  match cs with
  | '\x7b' :: rest =>
    let digits := rest.takeWhile (· != '\x7d')
    match rest.drop digits.length with
    | _ :: after => (hexChar? digits).map (·, after)
    | [] => none
  | cs =>
    if (cs.take count).length < count then none
    else (hexChar? (cs.take count)).map (·, cs.drop count)

/-- Splits a property in braces at `=`, `:` or `!=`: its name, its value, and whether the value is
denied. -/
def splitProperty (body : List Char) : List Char × Option (List Char) × Bool :=
  let name := body.takeWhile fun c ↦ !(c == '=' || c == ':')
  match body.drop name.length with
  | [] => (body, none, false)
  | '=' :: value =>
    if name.getLast? == some '!' then (name.dropLast, some value, true)
    else (name, some value, false)
  | _ :: value => (name, some value, false)

/-- The set of a property in braces. -/
def propertySet? (body : List Char) : Option CharSet :=
  let (name, value?, denied) := splitProperty body
  match value? with
  | none => CharSet.property? (CharSet.normalName name)
  | some value =>
    (CharSet.propertyValue? (CharSet.normalName name) (CharSet.normalName value)).map
      (CharSet.complIf denied)

/-- The set that a property escape stands for, after its letter. -/
def propertyEscape? (negated : Bool) (cs : List Char) : Option (CharSet × List Char) :=
  match cs with
  | [] => none
  | '\x7b' :: rest =>
    let (outer, rest) := match rest with
      | '^' :: more => (!negated, more)
      | more => (negated, more)
    let body := rest.takeWhile (· != '\x7d')
    match rest.drop body.length with
    | _ :: after => (propertySet? body).map fun s ↦ (CharSet.complIf outer s, after)
    | [] => none
  | '\\' :: _ => none
  | c :: rest => (propertySet? [c]).map fun s ↦ (CharSet.complIf negated s, rest)

/-- The named boundaries of words, after the opening brace. -/
def boundaryEscape? (u : Bool) (cs : List Char) : Option (Option Assertion × List Char) :=
  let name := cs.takeWhile fun c ↦ c.isAlpha || c == '-'
  if name.isEmpty then none
  else
    let known := match String.ofList name with
      | "start" => some (Assertion.wordStart u)
      | "end" => some (Assertion.wordEnd u)
      | "start-half" => some (Assertion.wordStartHalf u)
      | "end-half" => some (Assertion.wordEndHalf u)
      | _ => none
    match cs.drop name.length with
    | '\x7d' :: after => some (known, after)
    | _ => some (none, [])

/-- The control characters that letters stand for. -/
def controlEscape? : Char → Option Char
  | 'a' => some '\x07'
  | 'f' => some '\x0c'
  | 't' => some '\t'
  | 'n' => some '\n'
  | 'r' => some '\r'
  | 'v' => some '\x0b'
  | _ => none

/-- Reads an escape after its backslash. Without Unicode there is no complement: it would hold bytes
that are no characters. -/
def escape? (f : Flags) : List Char → Option (Escaped × List Char)
  | [] => none
  | c :: rest =>
    let set (s : CharSet) : Option (Escaped × List Char) := some (.set s, rest)
    match c with
    | 'd' => set (.digits f.unicode)
    | 'D' => if f.unicode then set (.compl (.digits true)) else none
    | 's' => set (.spaces f.unicode)
    | 'S' => if f.unicode then set (.compl (.spaces true)) else none
    | 'w' => set (.wordChars f.unicode)
    | 'W' => if f.unicode then set (.compl (.wordChars true)) else none
    | 'x' => (hexEscape? 2 rest).map fun (c, after) ↦ (.literal c, after)
    | 'u' => (hexEscape? 4 rest).map fun (c, after) ↦ (.literal c, after)
    | 'U' => (hexEscape? 8 rest).map fun (c, after) ↦ (.literal c, after)
    | 'p' | 'P' =>
      if f.unicode then
        (propertyEscape? (c == 'P') rest).map fun (s, after) ↦
          (.set (.anyCaseIf f.caseless s), after)
      else none
    | 'A' => some (.assertion .textStart, rest)
    | 'z' => some (.assertion .textEnd, rest)
    | 'B' => some (.assertion (.noWordBoundary f.unicode), rest)
    | '<' => some (.assertion (.wordStart f.unicode), rest)
    | '>' => some (.assertion (.wordEnd f.unicode), rest)
    | 'b' =>
      match rest with
      | '\x7b' :: more =>
        match boundaryEscape? f.unicode more with
        | some (some a, after) => some (.assertion a, after)
        | some (none, _) => none
        | none => some (.assertion (.wordBoundary f.unicode), rest)
      | _ => some (.assertion (.wordBoundary f.unicode), rest)
    | c =>
      match controlEscape? c with
      | some control => some (.literal control, rest)
      | none => if c.toNat < 128 ∧ !c.isAlphanum then some (.literal c, rest) else none

/-! ### Classes in brackets -/

/-- An operation on sets inside brackets. -/
inductive SetOp where
  | inter | diff | symmDiff
  deriving DecidableEq, Repr

/-- A bracket that is still open: what it holds so far, and the operation on sets that is waiting
for its right operand. -/
structure OpenBracket where
  negated : Bool
  /-- The left operand and its operation, if there was one. -/
  left : Option (CharSet × SetOp) := none
  /-- The union of the items after it. -/
  items : CharSet := .empty

namespace OpenBracket

/-- Adds an item. -/
def add (b : OpenBracket) (s : CharSet) : OpenBracket := { b with items := .union b.items s }

/-- The set of what was read so far. -/
def operand (f : Flags) (b : OpenBracket) : CharSet :=
  match b.left with
  | none => b.items
  | some (l, op) =>
    let l := CharSet.anyCaseIf f.caseless l
    let r := CharSet.anyCaseIf f.caseless b.items
    match op with
    | .inter => .inter l r
    | .diff => .diff l r
    | .symmDiff => .symmDiff l r

/-- Makes all so far the left operand of an operation. -/
def operate (f : Flags) (b : OpenBracket) (op : SetOp) : OpenBracket :=
  { b with left := some (b.operand f, op), items := .empty }

/-- The set of the whole bracket. -/
def close (f : Flags) (b : OpenBracket) : CharSet :=
  .complIf b.negated (.anyCaseIf f.caseless (b.operand f))

end OpenBracket

/-- Reads the dashes and the closing bracket that stand for themselves right after the opening
one. -/
def bracketLead (f : Flags) (b : OpenBracket) (first : Bool) : List Char → OpenBracket × List Char
  | '-' :: rest =>
    if _h : (skipBlanks f rest).length < rest.length + 1 then
      bracketLead f (b.add (.single '-')) false (skipBlanks f rest)
    else (b, rest)
  | ']' :: rest => if first then (b.add (.single ']'), skipBlanks f rest) else (b, ']' :: rest)
  | cs => (b, cs)
termination_by cs => cs.length

/-- Reads the start of a bracket after the bracket itself. -/
def openBracket (f : Flags) (cs : List Char) : OpenBracket × List Char :=
  match skipBlanks f cs with
  | '^' :: rest => bracketLead f ⟨true, none, .empty⟩ true (skipBlanks f rest)
  | cs => bracketLead f ⟨false, none, .empty⟩ true cs

/-- The class between `[:` and `:]`, after the opening bracket. -/
def namedClass? : List Char → Option (CharSet × List Char)
  | ':' :: rest =>
    let (negated, rest) := match rest with
      | '^' :: more => (true, more)
      | more => (false, more)
    let name := rest.takeWhile (· != ':')
    match rest.drop name.length with
    | ':' :: ']' :: after =>
      (CharSet.asciiClass? (String.ofList name)).map fun s ↦ (CharSet.complIf negated s, after)
    | _ => none
  | _ => none

/-- Reads one item of a bracket: a character or a set. -/
def bracketItem? (f : Flags) : List Char → Option (Escaped × List Char)
  | [] => none
  | '\\' :: rest =>
    match escape? f rest with
    | some (.assertion _, _) => none
    | other => other
  | c :: rest => some (.literal c, rest)

/-- Reads an item or a range. -/
def bracketRange? (f : Flags) (cs : List Char) : Option (CharSet × List Char) := do
  let (item, rest) ← bracketItem? f cs
  let asSet : Escaped → CharSet
    | .literal c => .single c
    | .set s => s
    | .assertion _ => .empty
  let rest := skipBlanks f rest
  match rest with
  | '-' :: more =>
    let after := skipBlanks f more
    if after.head? == some ']' || after.head? == some '-' then some (asSet item, rest)
    else do
      let (last, after) ← bracketItem? f after
      match item, last with
      | .literal low, .literal high =>
        if low.toNat ≤ high.toNat then some (.span low.toNat high.toNat, after) else none
      | _, _ => none
  | _ => some (asSet item, rest)

/-- Reads on inside brackets, of which the outermost is closed last. -/
def brackets? (f : Flags) (b : OpenBracket) (outer : List OpenBracket) (input : List Char) :
    Option (CharSet × List Char) :=
  let go (b : OpenBracket) (outer : List OpenBracket) (rest : List Char) :=
    if rest.length < input.length then brackets? f b outer rest else none
  match skipBlanks f input with
  | [] => none
  | '[' :: rest =>
    match namedClass? rest with
    | some (s, after) => go (b.add s) outer after
    | none =>
      let (inner, after) := openBracket f rest
      go inner (b :: outer) after
  | ']' :: rest =>
    match outer with
    | [] => some (b.close f, rest)
    | o :: outer => go (o.add (b.close f)) outer rest
  | '&' :: '&' :: rest => go (b.operate f .inter) outer rest
  | '-' :: '-' :: rest => go (b.operate f .diff) outer rest
  | '~' :: '~' :: rest => go (b.operate f .symmDiff) outer rest
  | cs =>
    match bracketRange? f cs with
    | some (s, after) => go (b.add s) outer after
    | none => none
termination_by input.length

/-- Reads a class after its opening bracket. -/
def class? (f : Flags) (cs : List Char) : Option (CharSet × List Char) :=
  let (b, rest) := openBracket f cs
  if b.negated && !f.unicode then none else brackets? f b [] rest

/-! ### Repetitions -/

/-- Reads a count; blanks around it do not count. -/
def count? (cs : List Char) : Option Nat × List Char :=
  let cs := cs.dropWhile Unicode.isWhiteSpace
  let digits := cs.takeWhile Char.isDigit
  let rest := (cs.drop digits.length).dropWhile Unicode.isWhiteSpace
  let n := Nat.ofDigitChars 10 digits 0
  (if digits.isEmpty ∨ Nat.pow 2 32 ≤ n then none else some n, rest)

/-- Reads the bounds of a repetition after the opening brace. -/
def bounds? (f : Flags) (cs : List Char) : Option (Nat × Option Nat × List Char) :=
  let (least?, rest) := count? (skipBlanks f cs)
  match least?, rest with
  | some least, '\x7d' :: after => some (least, some least, after)
  | some least, ',' :: more =>
    match skipBlanks f more with
    | '\x7d' :: after => some (least, none, after)
    | more =>
      match count? more with
      | (some most, '\x7d' :: after) =>
        if least ≤ most then some (least, some most, after) else none
      | _ => none
  | _, _ => none

/-- Drops the mark that asks for as few repetitions as possible: it changes which match is found,
not whether there is one. -/
def dropLazyMark (f : Flags) (cs : List Char) : List Char :=
  match skipBlanks f cs with
  | '?' :: rest => rest
  | _ => cs

/-! ### Groups -/

/-- Sets or clears a flag; `none` for a letter that is no flag. -/
def Flags.set? (f : Flags) (value : Bool) : Char → Option Flags
  | 'i' => some { f with caseless := value }
  | 'm' => some { f with multiLine := value }
  | 's' => some { f with dotAll := value }
  | 'R' => some { f with crlf := value }
  | 'u' => some { f with unicode := value }
  | 'x' => some { f with verbose := value }
  | 'U' => some f
  | _ => none

/-- Reads flags up to the `:` or `)` after them: the flags, whether there were any, and the rest
from that sign on. No letter comes twice, at most one dash, and a letter after it. -/
def flags? (f : Flags) (value : Bool) (seen : List Char) :
    List Char → Option (Flags × Bool × List Char)
  | [] => none
  | c :: rest =>
    if c = ':' ∨ c = ')' then
      if seen.head? = some '-' then none else some (f, !seen.isEmpty, c :: rest)
    else if seen.contains c then none
    else if c = '-' then flags? f false ('-' :: seen) rest
    else match f.set? value c with
      | some f => flags? f value (c :: seen) rest
      | none => none

/-- Whether a character may stand in the name of a group. -/
def isGroupNameChar (first : Bool) (c : Char) : Bool :=
  c == '_' || Unicode.isAlphabetic c
    || !first && (c == '.' || c == '[' || c == ']' || Unicode.isAlphanumeric c)

/-- How a group starts. -/
inductive GroupStart where
  /-- A group, with its name if it has one. -/
  | group (name : Option (List Char)) (f : Flags)
  /-- Flags for the rest of the group around. -/
  | flags (f : Flags)

/-- Reads the name of a group and the bracket after it. -/
def groupName? (cs : List Char) : Option (List Char × List Char) :=
  let name := cs.takeWhile (· != '>')
  match name, cs.drop name.length with
  | first :: others, _ :: after =>
    if isGroupNameChar true first && others.all (isGroupNameChar false) then some (name, after)
    else none
  | _, _ => none

/-- Reads the start of a group after its parenthesis. -/
def groupStart? (f : Flags) (cs : List Char) : Option (GroupStart × List Char) :=
  let named (rest : List Char) : Option (GroupStart × List Char) :=
    (groupName? rest).map fun (name, after) ↦ (.group (some name) f, after)
  match skipBlanks f cs with
  | '?' :: '=' :: _ | '?' :: '!' :: _ => none
  | '?' :: '<' :: '=' :: _ | '?' :: '<' :: '!' :: _ => none
  | '?' :: 'P' :: '<' :: rest => named rest
  | '?' :: '<' :: rest => named rest
  | '?' :: rest =>
    match flags? f true [] (skipBlanks f rest) with
    | some (g, _, ':' :: after) => some (.group none g, after)
    | some (g, true, ')' :: after) => some (.flags g, after)
    | _ => none
  | rest => some (.group none f, rest)

/-! ### The whole pattern -/

/-- A group that is still open: its choices so far, the parts of the present one, and the flags that
hold again after it. -/
structure OpenGroup where
  /-- The flags outside. -/
  flags : Flags
  /-- The choices before the present one. -/
  choices : Option Pattern := none
  /-- The parts of the present choice, latest first; `none` stands for flags. -/
  parts : List (Option Pattern) := []

namespace OpenGroup

/-- Adds a part. -/
def add (g : OpenGroup) (p : Pattern) : OpenGroup := { g with parts := some p :: g.parts }

/-- The present choice. -/
def present (g : OpenGroup) : Pattern :=
  match g.parts.filterMap id with
  | [] => .empty
  | p :: before => before.foldl (fun later p ↦ .sequence p later) p

/-- All choices. -/
def close (g : OpenGroup) : Pattern :=
  match g.choices with
  | none => g.present
  | some p => .choice p g.present

/-- Starts another choice. -/
def branch (g : OpenGroup) : OpenGroup := { g with choices := some g.close, parts := [] }

/-- Repeats the last part, if there is one to repeat. -/
def repeatLast? (g : OpenGroup) (least : Nat) (most : Option Nat) : Option OpenGroup :=
  match g.parts with
  | some p :: before => some { g with parts := some (.repetition p least most) :: before }
  | _ => none

end OpenGroup

/-- The pattern of one character. -/
def literal (f : Flags) (c : Char) : Pattern :=
  .char (.anyCaseIf f.caseless (.single c))

/-- The pattern of an escape. -/
def Escaped.pattern (f : Flags) : Escaped → Pattern
  | .literal c => Pattern.literal f c
  | .set s => .char s
  | .assertion a => .assertion a

/-- The characters that a dot stands for. -/
def dotSet (f : Flags) : CharSet :=
  if f.dotAll then .all
  else if f.crlf then .compl (.union (.single '\n') (.single '\r'))
  else .compl (.single '\n')

/-- The greatest number of groups inside one another. -/
def maxNesting : Nat := 250

/-- Reads on; `g` is the innermost open group, `outer` the others, `names` the names of groups so
far. -/
def patternFrom? (f : Flags) (g : OpenGroup) (outer : List OpenGroup) (names : List (List Char))
    (input : List Char) : Option Pattern :=
  let go (f : Flags) (g : OpenGroup) (outer : List OpenGroup) (names : List (List Char))
      (rest : List Char) :=
    if rest.length < input.length then patternFrom? f g outer names rest else none
  let repeated (least : Nat) (most : Option Nat) (rest : List Char) :=
    match g.repeatLast? least most with
    | some g => go f g outer names (dropLazyMark f rest)
    | none => none
  match skipBlanks f input with
  | [] => if outer.isEmpty then some g.close else none
  | '(' :: rest =>
    match groupStart? f rest with
    | some (.flags inner, after) => go inner { g with parts := none :: g.parts } outer names after
    | some (.group name? inner, after) =>
      if name?.any names.contains || maxNesting ≤ outer.length then none
      else go inner { flags := f } (g :: outer) (name?.toList ++ names) after
    | none => none
  | ')' :: rest =>
    match outer with
    | [] => none
    | o :: outer => go g.flags (o.add g.close) outer names rest
  | '|' :: rest => go f g.branch outer names rest
  | '[' :: rest =>
    match class? f rest with
    | some (s, after) => go f (g.add (.char s)) outer names after
    | none => none
  | '?' :: rest => repeated 0 (some 1) rest
  | '*' :: rest => repeated 0 none rest
  | '+' :: rest => repeated 1 none rest
  | '\x7b' :: rest =>
    match bounds? f rest with
    | some (least, most, after) => repeated least most after
    | none => none
  | '.' :: rest => if f.unicode then go f (g.add (.char (dotSet f))) outer names rest else none
  | '^' :: rest =>
    go f (g.add (.assertion (if f.multiLine then .lineStart f.crlf else .textStart))) outer names
      rest
  | '$' :: rest =>
    go f (g.add (.assertion (if f.multiLine then .lineEnd f.crlf else .textEnd))) outer names rest
  | '\\' :: rest =>
    match escape? f rest with
    | some (e, after) => go f (g.add (e.pattern f)) outer names after
    | none => none
  | c :: rest => go f (g.add (literal f c)) outer names rest
termination_by input.length

/-- Reads a pattern. A text that cannot be read is none, and neither is one whose pattern would be
too large. -/
def parse? (text : String) : Option Pattern := do
  let p ← patternFrom? {} { flags := {} } [] [] text.toList
  guard (p.weight ≤ maxWeight)
  some p

end JavaDeps.Pattern
