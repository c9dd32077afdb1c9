/-!
# JSON values and their text

The values that are written as JSON, and their two written forms: on one line without blanks, and
laid out with two blanks per level. Only what JSON requires is escaped, so **a written text holds no
control character at all** except the line ends of the laid-out form.
-/

namespace JavaDeps.Json

/-- A JSON value, as far as the program writes one. Fields keep the order in which they are
written. -/
inductive Value where
  | null
  | bool (b : Bool)
  | nat (n : Nat)
  | string (s : String)
  | array (items : List Value)
  | object (fields : List (String × Value))
  deriving Inhabited

namespace Value

/-- A list of texts. -/
def strings (l : List String) : Value := .array (l.map .string)

/-- The field of a value that may be absent; an absent one is left out. -/
def optional (name : String) (toValue : α → Value) (a? : Option α) : List (String × Value) :=
  (a?.map fun a ↦ (name, toValue a)).toList

end Value

/-! ### Strings -/

/-- The hexadecimal digit of a number below sixteen. -/
def hexDigit (n : Nat) : Char := Nat.digitChar n

/-- A character as it stands inside quotes. -/
def escapeChar (c : Char) : List Char :=
  if c = '"' then ['\\', '"']
  else if c = '\\' then ['\\', '\\']
  else if c.toNat < 0x20 then
    match c.toNat with
    | 0x08 => ['\\', 'b']
    | 0x09 => ['\\', 't']
    | 0x0A => ['\\', 'n']
    | 0x0C => ['\\', 'f']
    | 0x0D => ['\\', 'r']
    | n => ['\\', 'u', '0', '0', hexDigit (n / 16), hexDigit (n % 16)]
  else [c]

/-- A text in quotes, with every character escaped that cannot stand for itself. -/
def quoted (s : String) : List Char :=
  '"' :: s.toList.flatMap escapeChar ++ ['"']

/-! ### On one line -/

mutual

/-- The characters of a value on one line. -/
def Value.chars : Value → List Char
  | .null => "null".toList
  | .bool true => "true".toList
  | .bool false => "false".toList
  | .nat n => Nat.toDigits 10 n
  | .string s => quoted s
  | .array items => '[' :: itemChars items ++ [']']
  | .object fields => '\x7b' :: fieldChars fields ++ ['\x7d']

/-- The items of an array, separated by commas. -/
def itemChars : List Value → List Char
  | [] => []
  | [v] => v.chars
  | v :: rest => v.chars ++ ',' :: itemChars rest

/-- The fields of an object, separated by commas. -/
def fieldChars : List (String × Value) → List Char
  | [] => []
  | [(k, v)] => quoted k ++ ':' :: v.chars
  | (k, v) :: rest => quoted k ++ ':' :: v.chars ++ ',' :: fieldChars rest

end

/-- A value on one line. -/
def Value.compact (v : Value) : String := String.ofList v.chars

/-! ### Laid out -/

/-- The blanks at the start of a line on some level. -/
def indentation (level : Nat) : String := "".pushn ' ' (2 * level)

mutual

/-- A value laid out on some level; its first line is not indented. -/
def Value.prettyAt (level : Nat) : Value → String
  | .array (v :: rest) =>
    "[\n" ++ prettyItems (level + 1) (v :: rest) ++ "\n" ++ indentation level ++ "]"
  | .object (f :: rest) =>
    "\x7b\n" ++ prettyFields (level + 1) (f :: rest) ++ "\n" ++ indentation level ++ "\x7d"
  | .array [] => "[]"
  | .object [] => "\x7b\x7d"
  | .null => "null"
  | .bool b => toString b
  | .nat n => toString n
  | .string s => String.ofList (quoted s)

/-- The items of an array, one on a line. -/
def prettyItems (level : Nat) : List Value → String
  | [] => ""
  | [v] => indentation level ++ v.prettyAt level
  | v :: rest => indentation level ++ v.prettyAt level ++ ",\n" ++ prettyItems level rest

/-- The fields of an object, one on a line. -/
def prettyFields (level : Nat) : List (String × Value) → String
  | [] => ""
  | [(k, v)] => indentation level ++ String.ofList (quoted k) ++ ": " ++ v.prettyAt level
  | (k, v) :: rest =>
    indentation level ++ String.ofList (quoted k) ++ ": " ++ v.prettyAt level ++ ",\n"
      ++ prettyFields level rest

end

/-- A value laid out over lines. -/
def Value.pretty (v : Value) : String := v.prettyAt 0

end JavaDeps.Json
