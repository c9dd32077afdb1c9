import JavaDeps.Text.Utf8

/-!
# JSON tokens

A JSON text is cut into tokens. **A text that is no JSON still has tokens**: the one at which
reading must stop says how it is broken, and whether it looked like a string or like a number, for a
reader that expects something else at that place objects to the look before it objects to the rest.
-/

namespace JavaDeps.Json

open Utf8 (Symbol)

/-- How a text fails to be JSON: by what stands there, or by ending too soon. -/
inductive Fault where
  | malformed
  | truncated
  deriving DecidableEq, Repr, Inhabited

/-- A number as it is spelled: digits before the point, after it, and in the exponent. -/
structure Numeral where
  negative : Bool
  whole : List Char
  fraction : List Char
  /-- Whether the exponent is negative, and its digits. -/
  exponent : Option (Bool × List Char)
  deriving DecidableEq, Repr

/-- A token, with what it stands for. A text is cut into tokens up to the first fault, which is one
of them. -/
inductive Token where
  | openBrace | closeBrace | openBracket | closeBracket | comma | colon
  | null
  | bool (b : Bool)
  | number (n : Numeral)
  /-- A string; `none` if its escapes or bytes do not make text. -/
  | string (text : Option String)
  /-- A string that breaks off. -/
  | brokenString (fault : Fault)
  /-- Anything else that is no token. -/
  | broken (fault : Fault)
  deriving DecidableEq, Repr

/-! ### Strings -/

/-- The number that hexadecimal digits spell, if all symbols are such digits. -/
def hexValue? (symbols : List Symbol) : Option Nat :=
  symbols.foldlM (fun n s ↦ do
    let c ← s
    let d ←
      if c.isDigit then some (c.toNat - '0'.toNat)
      else if 'a' ≤ c ∧ c ≤ 'f' then some (c.toNat - 'a'.toNat + 10)
      else if 'A' ≤ c ∧ c ≤ 'F' then some (c.toNat - 'A'.toNat + 10)
      else none
    pure (16 * n + d)) 0

/-- The number of bytes of a symbol. -/
def symbolSize : Symbol → Nat
  | some c => c.utf8Size
  | none => 1

/-- One UTF-16 unit of a string, or a character beyond escapes. -/
inductive StringPart where
  | char (c : Char)
  /-- The number of a `\u` escape. -/
  | unit (n : Nat)
  /-- A byte that belongs to no character. -/
  | badByte
  deriving DecidableEq, Repr

/-- The character that the letter after a backslash stands for. -/
def escapedChar? : Char → Option Char
  | '"' => some '"'
  | '\\' => some '\\'
  | '/' => some '/'
  | 'b' => some '\x08'
  | 'f' => some '\x0c'
  | 'n' => some '\n'
  | 'r' => some '\r'
  | 't' => some '\t'
  | _ => none

/-- The parts of a string from just after its opening quote, and the number of symbols through the
closing one. -/
def stringParts : List Symbol → Except Fault (List StringPart × Nat)
  | [] => .error .truncated
  | none :: rest => (stringParts rest).map fun (parts, n) ↦ (.badByte :: parts, n + 1)
  | some '"' :: _ => .ok ([], 1)
  | some '\\' :: [] => .error .truncated
  | some '\\' :: none :: _ => .error .malformed
  | some '\\' :: some 'u' :: d₁ :: d₂ :: d₃ :: d₄ :: rest =>
    match hexValue? [d₁, d₂, d₃, d₄] with
    | some u => (stringParts rest).map fun (parts, n) ↦ (.unit u :: parts, n + 6)
    | none => .error .malformed
  | some '\\' :: some 'u' :: few =>
    .error (if few.foldr (fun s n ↦ symbolSize s + n) 0 < 4 then .truncated else .malformed)
  | some '\\' :: some c :: rest =>
    match escapedChar? c with
    | some e => (stringParts rest).map fun (parts, n) ↦ (.char e :: parts, n + 2)
    | none => .error .malformed
  | some c :: rest =>
    if c.toNat < 0x20 then .error .malformed
    else (stringParts rest).map fun (parts, n) ↦ (.char c :: parts, n + 1)

/-- Whether a UTF-16 unit is the first of a pair. -/
def isHighSurrogate (n : Nat) : Bool := 0xD800 ≤ n && n ≤ 0xDBFF

/-- Whether a UTF-16 unit is the second of a pair. -/
def isLowSurrogate (n : Nat) : Bool := 0xDC00 ≤ n && n ≤ 0xDFFF

/-- The text that parts make. Surrogates must come in pairs. -/
def textOfParts? : List StringPart → Option (List Char)
  | [] => some []
  | .char c :: rest => (textOfParts? rest).map (c :: ·)
  | .badByte :: _ => none
  | .unit h :: .unit l :: rest =>
    if isHighSurrogate h then
      if isLowSurrogate l then
        (textOfParts? rest).map
          (Char.ofNat (0x10000 + (h - 0xD800) * 0x400 + (l - 0xDC00)) :: ·)
      else none
    else if isLowSurrogate h then none
    else (textOfParts? (.unit l :: rest)).map (Char.ofNat h :: ·)
  | .unit u :: rest =>
    if isHighSurrogate u || isLowSurrogate u then none
    else (textOfParts? rest).map (Char.ofNat u :: ·)

/-- The string token after an opening quote, and the number of its symbols. -/
def stringToken (rest : List Symbol) : Token × Nat :=
  match stringParts rest with
  | .ok (parts, n) => (.string ((textOfParts? parts).map String.ofList), n)
  | .error fault => (.brokenString fault, 0)

/-! ### Numbers -/

/-- Whether a symbol is a digit. -/
def isDigitSymbol (s : Symbol) : Bool := s.any Char.isDigit

/-- The digits at the start. -/
def leadingDigits (symbols : List Symbol) : List Char :=
  (symbols.takeWhile isDigitSymbol).filterMap id

/-- The fault of a place where a digit must stand. -/
def digitFault : List Symbol → Fault
  | [] => .truncated
  | _ => .malformed

/-- The exponent at the start, if there is one, and the number of its symbols. -/
def exponentPart (symbols : List Symbol) : Except Fault (Option (Bool × List Char) × Nat) :=
  let digitsAfter (lead : Nat) (negative : Bool) (rest : List Symbol) :=
    let digits := leadingDigits rest
    if digits.isEmpty then .error (digitFault rest)
    else .ok (some (negative, digits), lead + digits.length)
  match symbols with
  | some 'e' :: some '-' :: rest | some 'E' :: some '-' :: rest => digitsAfter 2 true rest
  | some 'e' :: some '+' :: rest | some 'E' :: some '+' :: rest => digitsAfter 2 false rest
  | some 'e' :: rest | some 'E' :: rest => digitsAfter 1 false rest
  | _ => .ok (none, 0)

/-- The fraction at the start, if there is one, and the number of its symbols. -/
def fractionPart : List Symbol → Except Fault (List Char × Nat)
  | some '.' :: rest =>
    let digits := leadingDigits rest
    if digits.isEmpty then .error (digitFault rest) else .ok (digits, digits.length + 1)
  | _ => .ok ([], 0)

/-- The number at the start, and the number of its symbols. A leading zero stands alone. -/
def numberParts (symbols : List Symbol) : Except Fault (Numeral × Nat) := do
  let negative := symbols.head? == some (some '-')
  let lead := if negative then 1 else 0
  let body := symbols.drop lead
  let whole := leadingDigits body
  if whole.isEmpty then throw (digitFault body)
  if 2 ≤ whole.length ∧ whole.head? = some '0' then throw .malformed
  let (fraction, m) ← fractionPart (body.drop whole.length)
  let (exponent, n) ← exponentPart (body.drop (whole.length + m))
  pure (⟨negative, whole, fraction, exponent⟩, lead + whole.length + m + n)

/-- The number token at the start, and the number of symbols after its first. -/
def numberToken (symbols : List Symbol) : Token × Nat :=
  match numberParts symbols with
  | .ok (n, used) => (.number n, used - 1)
  | .error fault => (.broken fault, 0)

/-! ### The tokens of a text -/

/-- How symbols start with a word: `none` if they do, else how they fail to. -/
def wordFault? : List Char → List Symbol → Option Fault
  | [], _ => none
  | _ :: _, [] => some .truncated
  | c :: word, s :: rest => if s = some c then wordFault? word rest else some .malformed

/-- The token of a word whose first letter was read, and the number of symbols after it. -/
def wordToken (token : Token) (word : List Char) (rest : List Symbol) : Token × Nat :=
  match wordFault? word rest with
  | none => (token, word.length)
  | some fault => (.broken fault, 0)

/-- Whether a symbol is a blank between tokens. -/
def isBlank : Symbol → Bool
  | some c => c == ' ' || c == '\t' || c == '\n' || c == '\r'
  | none => false

/-- The token that starts with `s` when `rest` follows, and the number of symbols after `s`. -/
def tokenAt (s : Symbol) (rest : List Symbol) : Token × Nat :=
  match s with
  | some '\x7b' => (.openBrace, 0)
  | some '\x7d' => (.closeBrace, 0)
  | some '[' => (.openBracket, 0)
  | some ']' => (.closeBracket, 0)
  | some ',' => (.comma, 0)
  | some ':' => (.colon, 0)
  | some '"' => stringToken rest
  | some 'n' => wordToken .null "ull".toList rest
  | some 't' => wordToken (.bool true) "rue".toList rest
  | some 'f' => wordToken (.bool false) "alse".toList rest
  | some c =>
    if c.isDigit || c == '-' then numberToken (s :: rest) else (.broken .malformed, 0)
  | none => (.broken .malformed, 0)

/-- The tokens of a text, without the blanks between them. Nothing is read behind a fault. -/
def tokens : List Symbol → List Token
  | [] => []
  | s :: rest =>
    if isBlank s then tokens rest
    else
      let (token, more) := tokenAt s rest
      match token with
      | .broken fault => [.broken fault]
      | .brokenString fault => [.brokenString fault]
      | token => token :: tokens (rest.drop more)
termination_by symbols => symbols.length
decreasing_by all_goals simp only [List.length_cons, List.length_drop]; omega

end JavaDeps.Json
