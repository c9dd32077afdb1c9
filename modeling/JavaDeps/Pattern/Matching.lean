import JavaDeps.Pattern.CharSet

/-!
# Patterns and what they match

A pattern is given meaning by the places at which its matches end. `ends` takes **all places at
once**: from a set of starting places to the set of places that a match starting there can reach. So
a pattern occurs in a text just if something is reached from anywhere, and no choice is ever taken
back.
-/

namespace JavaDeps

/-- A condition on a place in a text. -/
inductive Pattern.Assertion where
  | textStart
  | textEnd
  /-- At the start of the text or after a line's end; `crlf` counts carriage returns too. -/
  | lineStart (crlf : Bool)
  | lineEnd (crlf : Bool)
  | wordBoundary (unicode : Bool)
  | noWordBoundary (unicode : Bool)
  | wordStart (unicode : Bool)
  | wordEnd (unicode : Bool)
  | wordStartHalf (unicode : Bool)
  | wordEndHalf (unicode : Bool)
  deriving DecidableEq, Repr

/-- A pattern for texts: characters, conditions on places, and what is built from them by sequence,
choice and repetition. -/
inductive Pattern where
  | empty
  | char (s : Pattern.CharSet)
  | assertion (a : Pattern.Assertion)
  | sequence (p q : Pattern)
  | choice (p q : Pattern)
  /-- At least `least` times, and at most `most` times if given. -/
  | repetition (p : Pattern) (least : Nat) (most : Option Nat)
  deriving Inhabited

namespace Pattern

/-- Whether the character at a place is one of words. -/
def isWordAt (unicode : Bool) (text : Array Char) (place : Nat) : Bool :=
  text[place]?.any (CharSet.wordChars unicode).contains

/-- Whether the character before a place is one of words. -/
def isWordBefore (unicode : Bool) (text : Array Char) (place : Nat) : Bool :=
  0 < place && isWordAt unicode text (place - 1)

/-- Whether a condition holds at a place. -/
def Assertion.holds (text : Array Char) (place : Nat) : Assertion → Bool
  | textStart => place == 0
  | textEnd => place == text.size
  | lineStart false => place == 0 || text[place - 1]? == some '\n'
  | lineStart true =>
    place == 0 || text[place - 1]? == some '\n'
      || text[place - 1]? == some '\r' && text[place]? != some '\n'
  | lineEnd false => place == text.size || text[place]? == some '\n'
  | lineEnd true =>
    place == text.size || text[place]? == some '\r'
      || text[place]? == some '\n' && (place == 0 || text[place - 1]? != some '\r')
  | wordBoundary u => isWordBefore u text place != isWordAt u text place
  | noWordBoundary u => isWordBefore u text place == isWordAt u text place
  | wordStart u => !isWordBefore u text place && isWordAt u text place
  | wordEnd u => isWordBefore u text place && !isWordAt u text place
  | wordStartHalf u => !isWordBefore u text place
  | wordEndHalf u => !isWordAt u text place

/-- The places of both lists, each once. -/
def mergePlaces (xs ys : List Nat) : List Nat :=
  xs ++ ys.filter (!xs.contains ·)

/-- Applies a step so many times, unless no place is left before. -/
def stepTimes (step : List Nat → List Nat) : Nat → List Nat → List Nat
  | 0, places => places
  | n + 1, places => if places.isEmpty then [] else stepTimes step n (step places)

/-- The places reached by at most so many steps. -/
def stepUpTo (step : List Nat → List Nat) : Nat → List Nat → List Nat
  | 0, places => places
  | n + 1, places =>
    let reached := step places
    if reached.all places.contains then places
    else stepUpTo step n (mergePlaces places reached)

/-- The places at which matches from the given places end. -/
def ends (text : Array Char) : Pattern → List Nat → List Nat
  | empty, places => places
  | char s, places =>
    places.filterMap fun i ↦ if text[i]?.any s.contains then some (i + 1) else none
  | assertion a, places => places.filter (a.holds text)
  | sequence p q, places => q.ends text (p.ends text places)
  | choice p q, places => mergePlaces (p.ends text places) (q.ends text places)
  | repetition p least most, places =>
    let first := stepTimes (p.ends text) least places
    match most with
    | none => stepUpTo (p.ends text) (text.size + 1) first
    | some most => stepUpTo (p.ends text) (most - least) first

/-- Whether a pattern matches somewhere in a text. -/
def occursIn (p : Pattern) (text : String) : Bool :=
  let chars := text.toList.toArray
  !(p.ends chars (List.range (chars.size + 1))).isEmpty

/-- A rough count of the bytes that a compiled pattern takes up. -/
def weight : Pattern → Nat
  | empty => 0
  | char s => s.weight
  | assertion _ => 32
  | sequence p q => p.weight + q.weight
  | choice p q => p.weight + q.weight + 40
  | repetition p least most =>
    match most with
    | none => (max least 1) * p.weight + 40
    | some most => least * p.weight + (most - least) * (p.weight + 40)

/-- The greatest weight that a pattern may have. -/
def maxWeight : Nat := 10 * Nat.pow 2 20

end Pattern

end JavaDeps
