import JavaDeps.Unicode.Fold
import JavaDeps.Unicode.Property
import JavaDeps.Unicode.Scripts

/-!
# Sets of characters

The sets that patterns are built from: spans of code points and Unicode properties, closed under the
set operations and under case.
-/

namespace JavaDeps.Pattern

open Unicode (CodeRun)

/-- A set of characters, as it is put together in a pattern. Whether a character is a member is
computed when it is asked for. -/
inductive CharSet where
  | span (low high : Nat)
  | runs (rs : List CodeRun)
  | union (a b : CharSet)
  | inter (a b : CharSet)
  | diff (a b : CharSet)
  | symmDiff (a b : CharSet)
  | compl (a : CharSet)
  /-- The characters equal to a member up to case. -/
  | anyCase (a : CharSet)
  deriving Inhabited

namespace CharSet

/-- Whether a code point belongs to a set. -/
def holds : CharSet → Nat → Bool
  | span low high, code => low ≤ code && code ≤ high
  | runs rs, code => Unicode.member rs code
  | union a b, code => a.holds code || b.holds code
  | inter a b, code => a.holds code && b.holds code
  | diff a b, code => a.holds code && !b.holds code
  | symmDiff a b, code => a.holds code != b.holds code
  | compl a, code => !a.holds code
  | anyCase a, code => (Unicode.variants code).any a.holds

/-- Whether a character belongs to a set. -/
def contains (s : CharSet) (c : Char) : Bool := s.holds c.toNat

/-- The empty set. -/
def empty : CharSet := runs []

/-- The set of one character. -/
def single (c : Char) : CharSet := span c.toNat c.toNat

/-- The set of all code points. -/
def all : CharSet := span 0 0x10FFFF

/-- The union of several sets. -/
def unions (sets : List CharSet) : CharSet := sets.foldl union empty

/-- The complement of a set if a condition says so. -/
def complIf (negated : Bool) (s : CharSet) : CharSet := if negated then compl s else s

/-- The set closed under case if a condition says so. -/
def anyCaseIf (caseless : Bool) (s : CharSet) : CharSet := if caseless then anyCase s else s

/-- The set of some categories. -/
def categories (cs : List Unicode.Category) : CharSet := runs (cs.flatMap (·.runs))

/-- A rough count of the bytes that a set takes up in a compiled pattern. -/
def weight : CharSet → Nat
  | span low high => if high < 128 then 32 else if low = high then 96 else 200
  | runs rs => 32 + 24 * rs.length
  | union a b | inter a b | diff a b | symmDiff a b => a.weight + b.weight
  | compl a => a.weight + 100
  | anyCase a => 2 * a.weight

/-! ### Classes by name -/

/-- Decimal digits. -/
def digits (unicode : Bool) : CharSet :=
  if unicode then categories [.decimalNumber] else span 0x30 0x39

/-- White space. -/
def spaces (unicode : Bool) : CharSet :=
  if unicode then runs Unicode.Table.whiteSpace else union (span 0x09 0x0D) (single ' ')

/-- Alphabetic characters. -/
def alphabetic : CharSet :=
  union (categories (Unicode.letterCategories ++ [.letterNumber]))
    (runs Unicode.Table.otherAlphabetic)

/-- Characters with the property `Uppercase`. -/
def uppercase : CharSet :=
  union (categories [.uppercaseLetter]) (runs Unicode.Table.otherUppercase)

/-- Characters with the property `Lowercase`. -/
def lowercase : CharSet :=
  union (categories [.lowercaseLetter]) (runs Unicode.Table.otherLowercase)

/-- Characters of words: alphabetic ones, marks, digits, connectors and joiners. -/
def wordChars (unicode : Bool) : CharSet :=
  if unicode then
    unions [alphabetic,
      categories [.nonspacingMark, .spacingMark, .enclosingMark, .decimalNumber,
        .connectorPunctuation],
      span 0x200C 0x200D]
  else unions [span 0x30 0x39, span 0x41 0x5A, single '_', span 0x61 0x7A]

/-- The classes that a bracket names between colons; they hold ASCII only. -/
def asciiClass? : String → Option CharSet
  | "alnum" => some (unions [span 0x30 0x39, span 0x41 0x5A, span 0x61 0x7A])
  | "alpha" => some (union (span 0x41 0x5A) (span 0x61 0x7A))
  | "ascii" => some (span 0 0x7F)
  | "blank" => some (union (single '\t') (single ' '))
  | "cntrl" => some (union (span 0 0x1F) (span 0x7F 0x7F))
  | "digit" => some (span 0x30 0x39)
  | "graph" => some (span 0x21 0x7E)
  | "lower" => some (span 0x61 0x7A)
  | "print" => some (span 0x20 0x7E)
  | "punct" => some (unions [span 0x21 0x2F, span 0x3A 0x40, span 0x5B 0x60, span 0x7B 0x7E])
  | "space" => some (union (span 0x09 0x0D) (single ' '))
  | "upper" => some (span 0x41 0x5A)
  | "word" => some (wordChars false)
  | "xdigit" => some (unions [span 0x30 0x39, span 0x41 0x46, span 0x61 0x66])
  | _ => none

/-- The names of categories and their groups, as they are compared. -/
def categoryNames : List (List String × List Unicode.Category) :=
  [(["lu", "uppercaseletter"], [.uppercaseLetter]),
    (["ll", "lowercaseletter"], [.lowercaseLetter]),
    (["lt", "titlecaseletter"], [.titlecaseLetter]),
    (["lm", "modifierletter"], [.modifierLetter]),
    (["lo", "otherletter"], [.otherLetter]),
    (["lc", "casedletter"], [.uppercaseLetter, .lowercaseLetter, .titlecaseLetter]),
    (["l", "letter"], Unicode.letterCategories),
    (["mn", "nonspacingmark"], [.nonspacingMark]),
    (["mc", "spacingmark"], [.spacingMark]),
    (["me", "enclosingmark"], [.enclosingMark]),
    (["m", "mark", "combiningmark"], [.nonspacingMark, .spacingMark, .enclosingMark]),
    (["nd", "decimalnumber", "digit"], [.decimalNumber]),
    (["nl", "letternumber"], [.letterNumber]),
    (["no", "othernumber"], [.otherNumber]),
    (["n", "number"], Unicode.numberCategories),
    (["pc", "connectorpunctuation"], [.connectorPunctuation]),
    (["pd", "dashpunctuation"], [.dashPunctuation]),
    (["ps", "openpunctuation"], [.openPunctuation]),
    (["pe", "closepunctuation"], [.closePunctuation]),
    (["pi", "initialpunctuation"], [.initialPunctuation]),
    (["pf", "finalpunctuation"], [.finalPunctuation]),
    (["po", "otherpunctuation"], [.otherPunctuation]),
    (["p", "punctuation", "punct"],
      [.connectorPunctuation, .dashPunctuation, .openPunctuation, .closePunctuation,
        .initialPunctuation, .finalPunctuation, .otherPunctuation]),
    (["sm", "mathsymbol"], [.mathSymbol]),
    (["sc", "currencysymbol"], [.currencySymbol]),
    (["sk", "modifiersymbol"], [.modifierSymbol]),
    (["so", "othersymbol"], [.otherSymbol]),
    (["s", "symbol"], [.mathSymbol, .currencySymbol, .modifierSymbol, .otherSymbol]),
    (["zs", "spaceseparator"], [.spaceSeparator]),
    (["zl", "lineseparator"], [.lineSeparator]),
    (["zp", "paragraphseparator"], [.paragraphSeparator]),
    (["z", "separator"], [.spaceSeparator, .lineSeparator, .paragraphSeparator]),
    (["cc", "control", "cntrl"], [.control]),
    (["cf", "format"], [.format]),
    (["cs", "surrogate"], [.surrogate]),
    (["co", "privateuse"], [.privateUse])]

/-- The assigned code points. -/
def assigned : CharSet := categories (categoryNames.flatMap (·.2))

/-- A name as it is compared: in small letters, without blanks, `_` and `-`, and without a leading
`is`. -/
def normalName (name : List Char) : String :=
  let plain := (name.map Char.toLower).filter fun c ↦ !(c == ' ' || c == '_' || c == '-')
  String.ofList <|
    match plain with
    | 'i' :: 's' :: c :: rest => if c == 'c' && rest.isEmpty then plain else c :: rest
    | _ => plain

/-- The set of a general category. -/
def category? (name : String) : Option CharSet :=
  match name with
  | "any" => some all
  | "ascii" => some (span 0 0x7F)
  | "assigned" => some assigned
  | "cn" | "unassigned" => some (compl assigned)
  | "c" | "other" =>
    some (union (categories [.control, .format, .surrogate, .privateUse]) (compl assigned))
  | name => (categoryNames.find? (·.1.contains name)).map fun e ↦ categories e.2

/-- The set of a script. -/
def script? (name : String) : Option CharSet :=
  (Unicode.Table.scripts.find? (·.1 == name)).map fun e ↦ runs e.2

/-- The set that a property name alone stands for. -/
def property? (name : String) : Option CharSet :=
  match name with
  | "alphabetic" | "alpha" => some alphabetic
  | "uppercase" | "upper" => some uppercase
  | "lowercase" | "lower" => some lowercase
  | "whitespace" | "space" | "wspace" => some (runs Unicode.Table.whiteSpace)
  | name => (category? name).or (script? name)

/-- The set that a property and its value stand for. -/
def propertyValue? (property value : String) : Option CharSet :=
  match property with
  | "gc" | "generalcategory" => category? value
  | "sc" | "script" | "scx" | "scriptextensions" => script? value
  | _ => none

end CharSet

end JavaDeps.Pattern
