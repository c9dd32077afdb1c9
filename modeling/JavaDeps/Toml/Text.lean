import JavaDeps.Text.Lines

/-!
# Texts in TOML

Quoted texts, over one line or several, with escapes or without. Readers take the characters in
front of them and return the rest; they return nothing when what is in front of them is not well
formed.
-/

namespace JavaDeps.Toml

/-- A reader of something at the front of some characters. -/
abbrev Reader (α : Type) := List Char → Option (α × List Char)

/-- Whether a character may stand in a comment or a quoted text. -/
def isPlain (c : Char) : Bool := c == '\t' || 0x20 ≤ c.toNat && c.toNat != 0x7F

/-- Whether a character is a blank within a line. -/
def isBlank (c : Char) : Bool := c == ' ' || c == '\t'

/-- What follows blanks. -/
def skipBlanks (cs : List Char) : List Char := cs.dropWhile isBlank

/-- What follows a line end. -/
def lineEnd? : List Char → Option (List Char)
  | '\n' :: rest => some rest
  | '\r' :: '\n' :: rest => some rest
  | _ => none

/-! ### Escapes -/

/-- The value of a hexadecimal digit. -/
def hexDigit? (c : Char) : Option Nat :=
  if c.isDigit then some (c.toNat - '0'.toNat)
  else if 'a' ≤ c && c ≤ 'f' then some (c.toNat - 'a'.toNat + 10)
  else if 'A' ≤ c && c ≤ 'F' then some (c.toNat - 'A'.toNat + 10)
  else none

/-- The character with a hexadecimal code of so many digits. -/
def hexChar? (count : Nat) (cs : List Char) : Option Char := do
  guard (count ≤ cs.length)
  let digits ← (cs.take count).mapM hexDigit?
  let code := digits.foldl (fun n d ↦ 16 * n + d) 0
  if code.isValidChar then some (Char.ofNat code) else none

/-- The character that an escape stands for, and how many characters follow the backslash. -/
def escaped? : List Char → Option (Char × Nat)
  | 'b' :: _ => some ('\x08', 1)
  | 't' :: _ => some ('\t', 1)
  | 'n' :: _ => some ('\n', 1)
  | 'f' :: _ => some ('\x0c', 1)
  | 'r' :: _ => some ('\r', 1)
  | '"' :: _ => some ('"', 1)
  | '\\' :: _ => some ('\\', 1)
  | 'u' :: rest => (hexChar? 4 rest).map (·, 5)
  | 'U' :: rest => (hexChar? 8 rest).map (·, 9)
  | _ => none

/-- Puts a character in front of what a reader found. -/
def consText (c : Char) (found : Option (List Char × List Char)) :
    Option (List Char × List Char) :=
  found.map fun (text, rest) ↦ (c :: text, rest)

/-! ### On one line -/

/-- A text with escapes, after its opening quote. -/
def basic? : List Char → Option (List Char × List Char)
  | [] => none
  | c :: rest =>
    if c = '"' then some ([], rest)
    else if c = '\\' then
      match escaped? rest with
      | some (e, used) => consText e (basic? (rest.drop used))
      | none => none
    else if isPlain c then consText c (basic? rest) else none
termination_by cs => cs.length
decreasing_by all_goals simp only [List.length_cons, List.length_drop]; omega

/-- A text without escapes, after its opening quote. -/
def literal? : List Char → Option (List Char × List Char)
  | [] => none
  | c :: rest =>
    if c = '\'' then some ([], rest) else if isPlain c then consText c (literal? rest) else none

/-! ### Over several lines -/

/-- The quotes in front of some characters that end a text: three close it, and up to two before
them belong to it. -/
def closing? (quote : Char) (cs : List Char) : Option (List Char × List Char) :=
  let quotes := ((cs.takeWhile (· == quote)).take 5).length
  if 3 ≤ quotes then some (List.replicate (quotes - 3) quote, cs.drop quotes) else none

/-- How many characters a backslash at the end of a line makes vanish: blanks, a line end, and all
blanks and line ends that follow. -/
def foldedLine? (cs : List Char) : Option Nat := do
  let afterEnd ← lineEnd? (skipBlanks cs)
  let kept := afterEnd.dropWhile fun c ↦ isBlank c || c == '\n' || c == '\r'
  return cs.length - kept.length

/-- A text over several lines, after its opening quotes. -/
def multiline? (quote : Char) (escapes : Bool) : List Char → Option (List Char × List Char)
  | [] => none
  | c :: rest =>
    if c = quote then
      match closing? quote (c :: rest) with
      | some found => some found
      | none => consText c (multiline? quote escapes rest)
    else if c = '\n' then consText c (multiline? quote escapes rest)
    else if c = '\r' then
      match rest with
      | '\n' :: more => consText '\n' (multiline? quote escapes more)
      | _ => none
    else if escapes && c == '\\' then
      match foldedLine? rest with
      | some used => multiline? quote escapes (rest.drop used)
      | none =>
        match escaped? rest with
        | some (e, used) => consText e (multiline? quote escapes (rest.drop used))
        | none => none
    else if isPlain c then consText c (multiline? quote escapes rest) else none
termination_by cs => cs.length
decreasing_by all_goals simp only [List.length_cons, List.length_drop]; omega

/-- What follows a line end right after the opening quotes. -/
def skipFirstLineEnd (cs : List Char) : List Char := (lineEnd? cs).getD cs

/-- A text of characters that a reader found. -/
def asText (found : Option (List Char × List Char)) : Option (String × List Char) :=
  found.map fun (text, rest) ↦ (String.ofList text, rest)

/-- A quoted text on one line. -/
def shortText? : Reader String
  | '"' :: rest => asText (basic? rest)
  | '\'' :: rest => asText (literal? rest)
  | _ => none

/-- A quoted text. -/
def text? : Reader String
  | '"' :: '"' :: '"' :: rest => asText (multiline? '"' true (skipFirstLineEnd rest))
  | '\'' :: '\'' :: '\'' :: rest => asText (multiline? '\'' false (skipFirstLineEnd rest))
  | cs => shortText? cs

end JavaDeps.Toml
