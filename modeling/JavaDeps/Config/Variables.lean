import JavaDeps.Toml.Text
import JavaDeps.Toml.Value
import JavaDeps.Unicode.Property

/-!
# Settings in environment variables

A variable whose name starts with a fixed text sets one value: the rest of the name is a path of
keys. The value is **read leniently**: as a truth value, a number, a quoted text, a list or a table
if it is one from end to end, and as the plain text that it is otherwise.
-/

namespace JavaDeps.Config

open Toml (Value Entries)

/-- What the names of variables for settings start with; case does not count. -/
def variableLead : String := "jvdeps_"

/-! ### Names -/

/-- Characters with a dot for every two underscores. -/
def dotUnderscores : List Char → List Char
  | '_' :: '_' :: rest => '.' :: dotUnderscores rest
  | c :: rest => c :: dotUnderscores rest
  | [] => []

/-- Blanks at both ends removed. -/
def trimBlanks (cs : List Char) : List Char :=
  ((cs.dropWhile Unicode.isWhiteSpace).reverse.dropWhile Unicode.isWhiteSpace).reverse

/-- The path of keys in the name of a variable, if it sets anything: what follows the lead, in lower
case, cut at dots and at double underscores. -/
def variableKeys? (name : String) : Option (List String) :=
  let cs := (trimBlanks name.toList).map Char.toLower
  let lead := variableLead.toList
  if lead.isPrefixOf cs then
    let keys := (dotUnderscores (cs.drop lead.length)).splitOn '.'
    if keys.any List.isEmpty then none else some (keys.map String.ofList)
  else none

/-! ### Plain values -/

/-- Whether a character is a blank between parts of a value. -/
def isGap (c : Char) : Bool := c == ' ' || c == '\t' || c == '\n' || c == '\r' || c == '\x0c'

/-- What follows blanks. -/
def skipGaps (cs : List Char) : List Char := cs.dropWhile isGap

/-- The value of decimal digits. -/
def decimal? (cs : List Char) : Option Nat :=
  if cs.isEmpty || !cs.all Char.isDigit then none
  else some (cs.foldl (fun n c ↦ 10 * n + (c.toNat - '0'.toNat)) 0)

/-- A whole number of 64 bits, with a sign or without. -/
def wholeNumber? (cs : List Char) : Option Int :=
  match cs with
  | '-' :: digits => (decimal? digits).bind fun n ↦ if n ≤ Nat.pow 2 63 then some (-n) else none
  | '+' :: digits => (decimal? digits).bind fun n ↦ if n < Nat.pow 2 64 then some n else none
  | digits => (decimal? digits).bind fun n ↦ if n < Nat.pow 2 64 then some n else none

/-- Whether characters are an exponent: a sign if any, and digits. -/
def isExponent (cs : List Char) : Bool :=
  let digits := if cs.head? == some '+' || cs.head? == some '-' then cs.tail else cs
  (decimal? digits).isSome

/-- Whether characters with a dot among them are a number: digits on one side of the dot at
least. -/
def isFraction (cs : List Char) : Bool :=
  let unsigned := if cs.head? == some '+' || cs.head? == some '-' then cs.tail else cs
  let digits := unsigned.takeWhile Char.isDigit
  match unsigned.drop digits.length with
  | '.' :: rest =>
    let fraction := rest.takeWhile Char.isDigit
    !(digits.isEmpty && fraction.isEmpty) &&
      match rest.drop fraction.length with
      | [] => true
      | 'e' :: exponent => isExponent exponent
      | 'E' :: exponent => isExponent exponent
      | _ => false
  | _ => false

/-- The value of text without quotes. -/
def plainValue (cs : List Char) : Value :=
  if cs.contains '.' then
    if isFraction cs then .real else .text (String.ofList cs)
  else ((wholeNumber? cs).map Value.integer).getD (.text (String.ofList cs))

/-- Whether a character ends text without quotes. -/
def endsPlain (c : Char) : Bool :=
  c == ',' || c == '\x7b' || c == '\x7d' || c == '[' || c == ']'

/-- Text without quotes. -/
def plain (cs : List Char) : Value × List Char :=
  (plainValue (trimBlanks (cs.takeWhile (!endsPlain ·))), cs.dropWhile (!endsPlain ·))

/-! ### Lists and tables -/

/-- What follows some characters, if they come first. -/
def after? (lead : String) (cs : List Char) : Option (List Char) :=
  if lead.toList.isPrefixOf cs then some (cs.drop lead.length) else none

/-- Whether a character may stand in a key without quotes. -/
def isKeyChar (c : Char) : Bool := c.isAlphanum || c == '_' || c == '-'

/-- A key in a table, with blanks around it. -/
def tableKey? (cs : List Char) : Option (String × List Char) :=
  match skipGaps cs with
  | '"' :: rest => (Toml.basic? rest).map fun (key, rest) ↦ (String.ofList key, skipGaps rest)
  | cs =>
    let key := cs.takeWhile isKeyChar
    if key.isEmpty then none else some (String.ofList key, skipGaps (cs.drop key.length))

mutual

/-- A value, with blanks around it. The first argument bounds how deep values are nested. -/
def variableValue? : Nat → List Char → Option (Value × List Char)
  | 0, _ => none
  | n + 1, cs =>
    let cs := skipGaps cs
    let found : Option (Value × List Char) :=
      match after? "true" cs, after? "false" cs with
      | some rest, _ => some (.bool true, rest)
      | _, some rest => some (.bool false, rest)
      | none, none =>
        match cs with
        | '\x7b' :: rest =>
          (variableEntries? n rest).map fun (entries, rest) ↦ (.table entries, rest)
        | '[' :: rest => (variableItems? n rest).map fun (items, rest) ↦ (.list items, rest)
        | '"' :: rest =>
          (Toml.basic? rest).map fun (text, rest) ↦ (.text (String.ofList text), rest)
        | '\'' :: c :: '\'' :: rest => some (.text (String.ofList [c]), rest)
        | '\'' :: _ => none
        | cs => some (plain cs)
    found.map fun (v, rest) ↦ (v, skipGaps rest)

/-- The items of a list after its bracket, or after a comma. -/
def variableItems? : Nat → List Char → Option (List Value × List Char)
  | 0, _ => none
  | _, ']' :: rest => some ([], rest)
  | n + 1, cs =>
    match variableValue? n cs with
    | some (v, ',' :: rest) => (variableItems? n rest).map fun (items, rest) ↦ (v :: items, rest)
    | some (v, ']' :: rest) => some ([v], rest)
    | _ => none

/-- The entries of a table after its brace, or after a comma. -/
def variableEntries? : Nat → List Char → Option (Entries × List Char)
  | 0, _ => none
  | _, '\x7d' :: rest => some ([], rest)
  | n + 1, cs => do
    let (key, rest) ← tableKey? cs
    match ← variableValue? n (← after? "=" rest) with
    | (v, ',' :: rest) =>
      (variableEntries? n rest).map fun (entries, rest) ↦
        (if (entries.lookup key).isSome then entries else (key, v) :: entries, rest)
    | (v, '\x7d' :: rest) => some ([(key, v)], rest)
    | _ => none

end

/-- The value of a variable. What cannot be read as a value of some other kind is a text. -/
def variableValue (text : String) : Value :=
  match variableValue? (2 * text.length + 2) text.toList with
  | some (v, []) => v
  | _ => .text text

/-- What a variable sets. -/
def variableLayer? (name text : String) : Option Value :=
  (variableKeys? name).map fun keys ↦ .nest keys (variableValue text)

/-- What variables set, later ones over earlier ones. -/
def variablesLayer (environment : List (String × String)) : Value :=
  (environment.filterMap fun (name, text) ↦ variableLayer? name text).foldl Toml.overlay (.table [])

end JavaDeps.Config
