import JavaDeps.Toml.Value

/-!
# Plain values in TOML

Numbers, truth values, dates and times. Each is one word, which must have the form of exactly one of
them. Integers have 64 bits; a date is a table with an entry that is no setting.
-/

namespace JavaDeps.Toml

/-! ### Digits -/

/-- The digits of a numeral without the underscores between them. -/
def digits? (isDigit : Char → Bool) (cs : List Char) : Option (List Char) :=
  let groups := cs.splitOn '_'
  if groups.all fun g ↦ !g.isEmpty && g.all isDigit then some groups.flatten else none

/-- The value of a digit, up to `f`. -/
def digitValue (c : Char) : Nat :=
  if c.isDigit then c.toNat - '0'.toNat else c.toLower.toNat - 'a'.toNat + 10

/-- The number that digits stand for. -/
def ofDigits (base : Nat) (digits : List Char) : Nat :=
  digits.foldl (fun n c ↦ base * n + digitValue c) 0

/-- The sign in front of some characters, and the others. -/
def splitSign : List Char → Bool × List Char
  | '+' :: rest => (false, rest)
  | '-' :: rest => (true, rest)
  | cs => (false, cs)

/-- The digits of a decimal number: nothing follows a leading zero. -/
def decimalDigits? (cs : List Char) : Option (List Char) := do
  let digits ← digits? Char.isDigit cs
  if cs.length = 1 || cs.head? != some '0' then some digits else none

/-! ### Integers -/

/-- Whether an integer has 64 bits. -/
def fits (n : Int) : Bool := -(Nat.pow 2 63 : Nat) ≤ n && n < (Nat.pow 2 63 : Nat)

/-- The base that two characters announce, and its digits. -/
def base? : List Char → Option (Nat × (Char → Bool) × List Char)
  | '0' :: 'x' :: rest => some (16, fun c ↦ c.isDigit || 'a' ≤ c.toLower && c.toLower ≤ 'f', rest)
  | '0' :: 'o' :: rest => some (8, fun c ↦ '0' ≤ c && c ≤ '7', rest)
  | '0' :: 'b' :: rest => some (2, fun c ↦ c == '0' || c == '1', rest)
  | _ => none

/-- An integer. -/
def integer? (word : List Char) : Option Value := do
  let n : Int ← match base? word with
    | some (base, isDigit, rest) => do pure (Int.ofNat (ofDigits base (← digits? isDigit rest)))
    | none =>
      let (negative, rest) := splitSign word
      let n := ofDigits 10 (← decimalDigits? rest)
      pure (if negative then -n else n)
  if fits n then some (.integer n) else none

/-! ### Numbers with a fraction or an exponent -/

/-- Whether `digits · 10 ^ exponent` is too large for a floating point number of 64 bits. -/
def overflows (digits : List Char) (exponent : Int) : Bool :=
  let significant := digits.dropWhile (· == '0')
  let size := significant.length + exponent
  if significant.isEmpty || size < 300 then false
  else if 400 < size then true
  else
    let n := ofDigits 10 significant
    let limit := Nat.pow 2 1024 - Nat.pow 2 970
    if 0 ≤ exponent then limit ≤ n * Nat.pow 10 exponent.toNat
    else limit * Nat.pow 10 (-exponent).toNat ≤ n

/-- The part before the first character that satisfies a test, that character, and what follows. -/
def splitAt? (p : Char → Bool) (cs : List Char) : List Char × Option (List Char) :=
  match cs.dropWhile (!p ·) with
  | [] => (cs, none)
  | _ :: rest => (cs.takeWhile (!p ·), some rest)

/-- A number with a fraction or an exponent. A positive number must not be too large. -/
def real? (word : List Char) : Option Value := do
  let (negative, rest) := splitSign word
  if rest = ['i', 'n', 'f'] || rest = ['n', 'a', 'n'] then some .real
  else
    let (mantissa, exponent) := splitAt? (fun c ↦ c == 'e' || c == 'E') rest
    let (whole, fraction) := splitAt? (· == '.') mantissa
    guard (fraction.isSome || exponent.isSome)
    let wholeDigits ← decimalDigits? whole
    let fractionDigits ← match fraction with
      | none => some []
      | some f => digits? Char.isDigit f
    let power : Int ← match exponent with
      | none => some 0
      | some e => do
        let (negative, e) := splitSign e
        let n := ofDigits 10 (← digits? Char.isDigit e)
        some (if negative then -n else n)
    if !negative && overflows (wholeDigits ++ fractionDigits) (power - fractionDigits.length)
    then none else some .real

/-! ### Dates and times -/

/-- A number of exactly so many digits. -/
def fixed? (count : Nat) (cs : List Char) : Option (Nat × List Char) :=
  let digits := cs.take count
  if digits.length = count && digits.all Char.isDigit then some (ofDigits 10 digits, cs.drop count)
  else none

/-- The number of days in a month. -/
def daysInMonth (year month : Nat) : Nat :=
  if month = 2 then
    if year % 4 = 0 ∧ (year % 100 ≠ 0 ∨ year % 400 = 0) then 29 else 28
  else if month = 4 ∨ month = 6 ∨ month = 9 ∨ month = 11 then 30
  else 31

/-- What follows one character. -/
def expect? (c : Char) (cs : List Char) : Option (List Char) :=
  if cs.head? = some c then some cs.tail else none

/-- What follows a date. -/
def skipDate? (cs : List Char) : Option (List Char) := do
  let (year, cs) ← fixed? 4 cs
  let (month, cs) ← fixed? 2 (← expect? '-' cs)
  let (day, cs) ← fixed? 2 (← expect? '-' cs)
  guard (1 ≤ month ∧ month ≤ 12 ∧ 1 ≤ day ∧ day ≤ daysInMonth year month)
  return cs

/-- What follows an hour and a minute. -/
def skipMinutes? (cs : List Char) : Option (List Char) := do
  let (hour, cs) ← fixed? 2 cs
  let (minute, cs) ← fixed? 2 (← expect? ':' cs)
  guard (hour ≤ 23 ∧ minute ≤ 59)
  return cs

/-- What follows a time of day. -/
def skipTime? (cs : List Char) : Option (List Char) := do
  let cs ← skipMinutes? cs
  let (second, cs) ← fixed? 2 (← expect? ':' cs)
  guard (second ≤ 60)
  match cs with
  | '.' :: rest =>
    guard (rest.head?.any Char.isDigit)
    return rest.dropWhile Char.isDigit
  | _ => return cs

/-- What follows the offset of a time zone, if there is one. -/
def skipOffset? : List Char → Option (List Char)
  | '+' :: rest => skipMinutes? rest
  | '-' :: rest => skipMinutes? rest
  | 'Z' :: rest => some rest
  | 'z' :: rest => some rest
  | cs => some cs

/-- Whether a word is a time of day, with an offset if `zoned`. -/
def isTime (zoned : Bool) (word : List Char) : Bool :=
  ((skipTime? word).bind fun rest ↦ if zoned then skipOffset? rest else some rest) == some []

/-- What a date or a time is read as. -/
def moment (word : List Char) : Value := .table [("$datetime", .text (String.ofList word))]

/-- A date, a time, or both in one word. -/
def moment? (word : List Char) : Option Value :=
  match skipDate? word with
  | some [] => some (moment word)
  | some ('T' :: time) => if isTime true time then some (moment word) else none
  | some ('t' :: time) => if isTime true time then some (moment word) else none
  | some _ => none
  | none => if isTime false word then some (moment word) else none

/-! ### Words -/

/-- Whether a character belongs to a word. -/
def isWordChar (c : Char) : Bool :=
  c.isAlphanum || c == '+' || c == '-' || c == '_' || c == '.' || c == ':'

/-- The value that a word stands for. -/
def ofWord? (word : List Char) : Option Value :=
  if word = "true".toList then some (.bool true)
  else if word = "false".toList then some (.bool false)
  else (integer? word).or ((real? word).or (moment? word))

/-- A plain value. A date and a time of day may be two words with a blank between them. -/
def scalar? (cs : List Char) : Option (Value × List Char) :=
  let word := cs.takeWhile isWordChar
  let rest := cs.dropWhile isWordChar
  let time := (rest.drop 1).takeWhile isWordChar
  if rest.head? = some ' ' && skipDate? word == some [] && isTime true time then
    some (moment word, (rest.drop 1).dropWhile isWordChar)
  else (ofWord? word).map (·, rest)

end JavaDeps.Toml
