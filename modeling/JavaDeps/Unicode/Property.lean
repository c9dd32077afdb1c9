import JavaDeps.Unicode.Derived
import JavaDeps.Unicode.Letters
import JavaDeps.Unicode.Marks
import JavaDeps.Unicode.Numbers
import JavaDeps.Unicode.Signs

/-!
# Character properties

General categories and the derived properties that Java names and regular expressions ask for.
ASCII is decided before any table is consulted: the tables are long, names are mostly ASCII, and a
closed term about an ASCII name then evaluates without them.
-/

namespace JavaDeps.Unicode

/-- The general categories. -/
inductive Category where
  | uppercaseLetter | lowercaseLetter | titlecaseLetter | modifierLetter | otherLetter
  | nonspacingMark | spacingMark | enclosingMark
  | decimalNumber | letterNumber | otherNumber
  | connectorPunctuation | dashPunctuation | openPunctuation | closePunctuation
  | initialPunctuation | finalPunctuation | otherPunctuation
  | mathSymbol | currencySymbol | modifierSymbol | otherSymbol
  | spaceSeparator | lineSeparator | paragraphSeparator
  | control | format | surrogate | privateUse
  deriving DecidableEq, Repr

/-- The members of a category. -/
def Category.runs : Category → List CodeRun
  | .uppercaseLetter => Table.uppercaseLetter
  | .lowercaseLetter => Table.lowercaseLetter
  | .titlecaseLetter => Table.titlecaseLetter
  | .modifierLetter => Table.modifierLetter
  | .otherLetter => Table.otherLetter
  | .nonspacingMark => Table.nonspacingMark
  | .spacingMark => Table.spacingMark
  | .enclosingMark => Table.enclosingMark
  | .decimalNumber => Table.decimalNumber
  | .letterNumber => Table.letterNumber
  | .otherNumber => Table.otherNumber
  | .connectorPunctuation => Table.connectorPunctuation
  | .dashPunctuation => Table.dashPunctuation
  | .openPunctuation => Table.openPunctuation
  | .closePunctuation => Table.closePunctuation
  | .initialPunctuation => Table.initialPunctuation
  | .finalPunctuation => Table.finalPunctuation
  | .otherPunctuation => Table.otherPunctuation
  | .mathSymbol => Table.mathSymbol
  | .currencySymbol => Table.currencySymbol
  | .modifierSymbol => Table.modifierSymbol
  | .otherSymbol => Table.otherSymbol
  | .spaceSeparator => Table.spaceSeparator
  | .lineSeparator => Table.lineSeparator
  | .paragraphSeparator => Table.paragraphSeparator
  | .control => Table.control
  | .format => Table.format
  | .surrogate => Table.surrogate
  | .privateUse => Table.privateUse

/-- Whether the code point of a character lies in one of the categories. -/
def inCategories (categories : List Category) (c : Char) : Bool :=
  categories.any fun category ↦ member category.runs c.toNat

/-- The five `L` categories. -/
def letterCategories : List Category :=
  [.uppercaseLetter, .lowercaseLetter, .titlecaseLetter, .modifierLetter, .otherLetter]

/-- The three `N` categories. -/
def numberCategories : List Category :=
  [.decimalNumber, .letterNumber, .otherNumber]

/-- Letters: the five `L` categories. -/
def isLetter (c : Char) : Bool :=
  if c.toNat < 128 then c.isAlpha else inCategories letterCategories c

/-- Numbers: the three `N` categories. -/
def isNumber (c : Char) : Bool :=
  if c.toNat < 128 then c.isDigit else inCategories numberCategories c

/-- The first and last code point beyond ASCII whose encoding in UTF-8 starts with the same byte as
that of `c`. -/
def leadByteBlock (c : Char) : Nat × Nat :=
  let size := if c.toNat < 0x800 then 0x40 else if c.toNat < 0x10000 then 0x1000 else 0x40000
  let low := c.toNat / size * size
  (low, low + (size - 1))

/-- Whether the first byte of a character beyond ASCII is the first byte of some letter or
number. -/
def sharesLeadByteWithWord (c : Char) : Bool :=
  let (low, high) := leadByteBlock c
  128 ≤ c.toNat &&
    (letterCategories ++ numberCategories).any fun category ↦
      category.runs.any (·.meets low high)

/-- The property `Uppercase`. Title-case and caseless letters do not have it. -/
def isUppercase (c : Char) : Bool :=
  if c.toNat < 128 then c.isUpper
  else inCategories [.uppercaseLetter] c || member Table.otherUppercase c.toNat

/-- The property `Lowercase`. -/
def isLowercase (c : Char) : Bool :=
  if c.toNat < 128 then c.isLower
  else inCategories [.lowercaseLetter] c || member Table.otherLowercase c.toNat

/-- The property `Alphabetic`. -/
def isAlphabetic (c : Char) : Bool :=
  if c.toNat < 128 then c.isAlpha
  else isLetter c || inCategories [.letterNumber] c || member Table.otherAlphabetic c.toNat

/-- Alphabetic characters and numbers. -/
def isAlphanumeric (c : Char) : Bool :=
  isAlphabetic c || isNumber c

/-- The property `White_Space`. -/
def isWhiteSpace (c : Char) : Bool :=
  if c.toNat < 128 then c.isWhitespace || c == '\x0b' || c == '\x0c'
  else member Table.whiteSpace c.toNat

/-- The general category of a character; `none` if it is unassigned. -/
def category? (c : Char) : Option Category :=
  [.uppercaseLetter, .lowercaseLetter, .titlecaseLetter, .modifierLetter, .otherLetter,
    .nonspacingMark, .spacingMark, .enclosingMark, .decimalNumber, .letterNumber, .otherNumber,
    .connectorPunctuation, .dashPunctuation, .openPunctuation, .closePunctuation,
    .initialPunctuation, .finalPunctuation, .otherPunctuation, .mathSymbol, .currencySymbol,
    .modifierSymbol, .otherSymbol, .spaceSeparator, .lineSeparator, .paragraphSeparator, .control,
    .format, .surrogate, .privateUse].find? fun category ↦ member category.runs c.toNat

/-- Whether a character shows by itself: it is assigned, no control or format character, and no
separator but the blank. -/
def isPrintable (c : Char) : Bool :=
  if c.toNat < 128 then 0x20 ≤ c.toNat && c.toNat < 0x7F
  else match category? c with
    | none | some .control | some .format | some .surrogate | some .privateUse
    | some .spaceSeparator | some .lineSeparator | some .paragraphSeparator => false
    | some _ => true

/-- The property `Grapheme_Extend`: marks and the like, which show only with a character before. -/
def extendsGrapheme (c : Char) : Bool :=
  128 ≤ c.toNat
    && (inCategories [.nonspacingMark, .enclosingMark] c
      || member Table.otherGraphemeExtend c.toNat)

end JavaDeps.Unicode
