/-!
# Writing TOML

A text is written in the plainest quotes that hold it: on one line with escapes where it needs none
but for tabs, then without escapes, then over several lines. A list of two or more items has a line
for each.
-/

namespace JavaDeps.Toml

/-! ### Texts -/

/-- What decides about the quotes of a text: whether it needs escapes, whether it has several lines,
and how long its runs of quotes are. -/
structure Traits where
  /-- It holds a control character that only an escape can show. -/
  controls : Bool
  backslashes : Bool
  newlines : Bool
  /-- The most single quotes in a row. -/
  singleRun : Nat
  /-- The most double quotes in a row. -/
  doubleRun : Nat
  deriving DecidableEq, Repr

/-- The most copies of a character in a row, where `run` of them came before. -/
def longestRun (c : Char) (run : Nat) : List Char → Nat
  | [] => run
  | d :: rest => if d = c then longestRun c (run + 1) rest else max run (longestRun c 0 rest)

/-- Whether only an escape shows a character. -/
def isControl (c : Char) : Bool :=
  (c.toNat < 0x20 || c.toNat == 0x7F) && c != '\t' && c != '\n'

/-- The traits of a text. -/
def Traits.ofText (cs : List Char) : Traits where
  controls := cs.any isControl
  backslashes := cs.contains '\\'
  newlines := cs.contains '\n'
  singleRun := longestRun '\'' 0 cs
  doubleRun := longestRun '"' 0 cs

/-- How a text is quoted: with escapes or without, and on one line or on several. -/
inductive Quoting where
  | basic
  | literal
  | multiBasic
  | multiLiteral
  deriving DecidableEq, Repr

/-- The quotes for a text with some traits. -/
def Quoting.choose (t : Traits) : Quoting :=
  if !t.controls && !t.backslashes && t.doubleRun == 0 && !t.newlines then .basic
  else if !t.controls && t.singleRun == 0 && !t.newlines then .literal
  else if !t.controls && !t.backslashes && t.doubleRun ≤ 2 then .multiBasic
  else if !t.controls && t.singleRun ≤ 2 then .multiLiteral
  else if t.newlines then .multiBasic
  else .basic

/-- A hexadecimal digit in capitals. -/
def upperHexDigit (n : Nat) : Char := (Nat.digitChar n).toUpper

/-- A character other than a quote inside of quotes with escapes. -/
def writtenChar (multi : Bool) (c : Char) : List Char :=
  if c = '\\' then ['\\', '\\']
  else if c = '\n' && multi then [c]
  else
    match c.toNat with
    | 0x08 => ['\\', 'b']
    | 0x09 => ['\\', 't']
    | 0x0A => ['\\', 'n']
    | 0x0C => ['\\', 'f']
    | 0x0D => ['\\', 'r']
    | n =>
      if n < 0x20 || n == 0x7F then
        ['\\', 'u', '0', '0', upperHexDigit (n / 16), upperHexDigit (n % 16)]
      else [c]

/-- The characters of a text inside of quotes with escapes; `run` double quotes came right before. A
quote needs an escape on one line, and over several lines after two others. -/
def writtenChars (multi : Bool) (run : Nat) : List Char → List Char
  | [] => []
  | c :: rest =>
    if c = '"' then
      if run < (if multi then 2 else 0) then c :: writtenChars multi (run + 1) rest
      else '\\' :: '"' :: writtenChars multi 0 rest
    else writtenChar multi c ++ writtenChars multi 0 rest

/-- A text in quotes. -/
def quotedChars (cs : List Char) : List Char :=
  let traits := Traits.ofText cs
  let firstLine := if traits.newlines then ['\n'] else []
  match Quoting.choose traits with
  | .basic => '"' :: writtenChars false 0 cs ++ ['"']
  | .literal => '\'' :: cs ++ ['\'']
  | .multiBasic =>
    ['"', '"', '"'] ++ firstLine ++ writtenChars true 0 cs ++ ['"', '"', '"']
  | .multiLiteral => ['\'', '\'', '\''] ++ firstLine ++ cs ++ ['\'', '\'', '\'']

/-- A text in quotes. -/
def quotedText (s : String) : String := String.ofList (quotedChars s.toList)

/-! ### Lists and entries -/

/-- A list of texts. -/
def listText : List String → String
  | [] => "[]"
  | [only] => "[" ++ quotedText only ++ "]"
  | items => "[\n" ++ String.join (items.map fun s ↦ "    " ++ quotedText s ++ ",\n") ++ "]"

/-- What an entry of a written document holds: one of the values that settings have. -/
inductive Written where
  | bool (b : Bool)
  | nat (n : Nat)
  | text (s : String)
  | list (items : List String)
  deriving DecidableEq, Repr

/-- The text of what an entry holds. -/
def Written.render : Written → String
  | bool b => toString b
  | nat n => toString n
  | text s => quotedText s
  | list items => listText items

/-- A table of a written document: its header, and its entries in order. -/
structure Section where
  header : String
  entries : List (String × Written)
  deriving DecidableEq, Repr

/-- The lines of a table. -/
def Section.render (s : Section) : String :=
  "[" ++ s.header ++ "]\n" ++
    String.join (s.entries.map fun (key, v) ↦ key ++ " = " ++ v.render ++ "\n")

/-- A document of tables, with a blank line between them. -/
def writeSections (sections : List Section) : String :=
  "\n".intercalate (sections.map Section.render)

end JavaDeps.Toml
