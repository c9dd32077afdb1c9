import JavaDeps.Toml.Scalar
import JavaDeps.Toml.Text

/-!
# Keys, lists and inline tables in TOML

A key may be dotted, and then names a place inside of tables. In an inline table **a key names one
value only**, and only tables that came from dotted keys of the same table can be added to.
-/

namespace JavaDeps.Toml

/-! ### Keys -/

/-- Values nested this deep are too deep, and so are keys with as many parts. -/
def maxDepth : Nat := 80

/-- Whether a character may stand in a key without quotes. -/
def isBareKeyChar (c : Char) : Bool := c.isAlphanum || c == '_' || c == '-'

/-- One part of a key. -/
def simpleKey? (cs : List Char) : Option (String × List Char) :=
  match cs.head? with
  | some '"' => shortText? cs
  | some '\'' => shortText? cs
  | _ =>
    let name := cs.takeWhile isBareKeyChar
    if name.isEmpty then none else some (String.ofList name, cs.drop name.length)

/-- At most so many parts of a key, with blanks around the dots between them. -/
def keyParts? : Nat → Reader (List String)
  | 0, _ => none
  | n + 1, cs => do
    let (part, rest) ← simpleKey? cs
    match skipBlanks rest with
    | '.' :: more => do
      let (parts, rest) ← keyParts? n (skipBlanks more)
      return (part :: parts, rest)
    | rest => return ([part], rest)

/-- A key, with blanks around it. -/
def key? (cs : List Char) : Option (List String × List Char) :=
  keyParts? (maxDepth - 1) (skipBlanks cs)

/-! ### Inline tables -/

/-- A table under construction: dotted keys can add to the tables that they made. -/
inductive Draft where
  | value (v : Value)
  | dotted (entries : List (String × Draft))
  deriving Inhabited

mutual

/-- The finished value of a draft. -/
def Draft.finish : Draft → Value
  | .value v => v
  | .dotted entries => .table (finishDrafts entries)

/-- The finished entries of drafts. -/
def finishDrafts : List (String × Draft) → Entries
  | [] => []
  | (key, d) :: rest => (key, d.finish) :: finishDrafts rest

end

/-- Replaces the first entry with a key, or adds one at the end. -/
def putEntry (key : String) (a : α) (entries : List (String × α)) : List (String × α) :=
  if (entries.lookup key).isSome then
    entries.map fun e ↦ if e.1 = key then (key, a) else e
  else entries ++ [(key, a)]

/-- Adds a value under a dotted key, unless there is one. -/
def addDraft? (v : Value) : List String → List (String × Draft) → Option (List (String × Draft))
  | [], _ => none
  | [key], entries =>
    if (entries.lookup key).isSome then none else some (entries ++ [(key, .value v)])
  | key :: rest, entries => do
    let inner ← match entries.lookup key with
      | none => some []
      | some (.dotted inner) => some inner
      | some (.value _) => none
    return putEntry key (.dotted (← addDraft? v rest inner)) entries

/-- An entry of an inline table: a key, an equals sign and a value. -/
def inlineEntry? (value : Reader Value) : Reader (List String × Value) := fun cs ↦ do
  let (key, rest) ← key? cs
  let (v, rest) ← value (skipBlanks (← expect? '=' rest))
  return ((key, v), skipBlanks rest)

/-- At most so many entries of an inline table up to its closing brace, added to a draft. -/
def inlineEntries? (value : Reader Value) :
    Nat → List (String × Draft) → Reader (List (String × Draft))
  | 0, _, _ => none
  | n + 1, draft, cs => do
    let ((key, v), rest) ← inlineEntry? value cs
    let draft ← addDraft? v key draft
    match rest with
    | ',' :: more => inlineEntries? value n draft more
    | '\x7d' :: more => return (draft, more)
    | _ => none

/-- An inline table, after its opening brace. -/
def inlineTable? (value : Reader Value) : Reader Value := fun cs ↦
  match skipBlanks cs with
  | '\x7d' :: rest => some (.table [], rest)
  | cs => (inlineEntries? value cs.length [] cs).map fun (d, rest) ↦ (.table (finishDrafts d), rest)

/-! ### Lists -/

/-- What follows a comment, if there is one. -/
def skipComment : List Char → List Char
  | '#' :: rest => rest.dropWhile isPlain
  | cs => cs

/-- What follows at most so many lines that hold nothing but comments. -/
def skipLines : Nat → List Char → List Char
  | 0, cs => cs
  | n + 1, cs =>
    let cs := skipBlanks cs
    match lineEnd? (skipComment cs) with
    | some rest => skipLines n rest
    | none => cs

/-- What follows blanks, comments and line ends. -/
def skipGap (cs : List Char) : List Char := skipLines cs.length cs

/-- At most so many items of a list up to its closing bracket. -/
def listItems? (value : Reader Value) : Nat → Reader (List Value)
  | 0, _ => none
  | n + 1, cs =>
    match skipGap cs with
    | ']' :: rest => some ([], rest)
    | cs => do
      let (v, rest) ← value cs
      match skipGap rest with
      | ',' :: more => do
        let (items, rest) ← listItems? value n more
        return (v :: items, rest)
      | ']' :: more => return ([v], more)
      | _ => none

/-- A list, after its opening bracket. -/
def list? (value : Reader Value) : Reader Value := fun cs ↦
  (listItems? value (cs.length + 1) cs).map fun (items, rest) ↦ (.list items, rest)

/-! ### Values -/

/-- A value nested less deep than a limit. -/
def valueWithin? : Nat → Reader Value
  | 0, _ => none
  | depth + 1, cs =>
    match cs with
    | '[' :: rest => if depth = 0 then none else list? (valueWithin? depth) rest
    | '\x7b' :: rest => if depth = 0 then none else inlineTable? (valueWithin? depth) rest
    | '"' :: _ => (text? cs).map fun (s, rest) ↦ (.text s, rest)
    | '\'' :: _ => (text? cs).map fun (s, rest) ↦ (.text s, rest)
    | _ => scalar? cs

/-- A value. -/
def value? : Reader Value := valueWithin? maxDepth

end JavaDeps.Toml
