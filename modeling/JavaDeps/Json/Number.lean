import JavaDeps.Decimal.Shortest
import JavaDeps.Json.Token

/-!
# What JSON numbers mean

A number without fraction and exponent is an integer as long as 64 bits hold it; any other number is
a floating-point number. **A floating-point number is assembled from the digits that 64 bits hold
and a power of ten**, with one rounding for each step, and must not overflow.
-/

namespace JavaDeps.Json

/-- What a number means. -/
inductive Number where
  | nat (n : Nat)
  /-- The integer `-n`; `n` is positive. -/
  | negative (n : Nat)
  | float (x : Float)

/-- The largest number of 64 bits. -/
def maxUInt64 : Nat := Nat.pow 2 64 - 1

/-- Takes digits into a number while 64 bits hold it; the other digits remain. -/
def takeDigits (n : Nat) : List Char → Nat × List Char
  | [] => (n, [])
  | d :: rest =>
    let m := 10 * n + (d.toNat - '0'.toNat)
    if maxUInt64 < m then (n, d :: rest) else takeDigits m rest

/-- `10 ^ e` as a floating-point number. -/
def powerOfTen (e : Nat) : Float := Float.ofScientific 1 false e

/-- `x / 10 ^ e`, dividing by at most `10 ^ 308` at a time; `none` of the factors is ever
infinite. -/
def divideByPower (x : Float) : Nat → Nat → Float
  | 0, _ => x
  | fuel + 1, e =>
    if e ≤ 308 then x / powerOfTen e
    else if x == 0 then x
    else divideByPower (x / powerOfTen 308) fuel (e - 308)

/-- `n · 10 ^ e`; a number that is too large is refused. -/
def assemble (n : Nat) (e : Int) : Except Fault Float :=
  let x := Float.ofNat n
  if 0 ≤ e then
    if 308 < e then (if n = 0 then .ok 0 else .error .malformed)
    else
      let y := x * powerOfTen e.toNat
      if y.isInf then .error .malformed else .ok y
  else .ok (divideByPower x ((-e).toNat / 308 + 1) (-e).toNat)

/-- The value of a number with fraction, exponent or too many digits. -/
def Numeral.float (n : Numeral) : Except Fault Float := do
  let (whole, beyond) := takeDigits 0 n.whole
  let (significand, dropped) :=
    if beyond.isEmpty then takeDigits whole n.fraction else (whole, n.fraction)
  let shift : Int := beyond.length - (n.fraction.length - dropped.length : Nat)
  let x ← match n.exponent with
    | none => assemble significand shift
    | some (isNegative, digits) =>
      let e := Nat.ofDigitChars 10 digits 0
      if Nat.pow 2 31 ≤ e then
        if significand = 0 ∨ isNegative then .ok 0 else .error .malformed
      else assemble significand (if isNegative then shift - e else shift + e)
  pure (if n.negative then -x else x)

/-- The value of a number. -/
def Numeral.value (n : Numeral) : Except Fault Number :=
  let whole := Nat.ofDigitChars 10 n.whole 0
  if n.fraction.isEmpty ∧ n.exponent = none then
    if n.negative = false ∧ whole ≤ maxUInt64 then .ok (.nat whole)
    else if n.negative ∧ 0 < whole ∧ whole ≤ Nat.pow 2 63 then .ok (.negative whole)
    else n.float.map .float
  else n.float.map .float

/-! ### Text -/

/-- A floating-point number in messages: positional between `10 ^ -5` and `10 ^ 16`, else with an
exponent of two digits or more and its sign. -/
def floatText (x : Float) : String :=
  let bits := x.toBits.toNat
  let sign := if Nat.pow 2 63 ≤ bits then "-" else ""
  let magnitude := bits % Nat.pow 2 63
  if magnitude = 0 then sign ++ "0.0"
  else
    let (digits, e) := (Decimal.Double.ofBits magnitude).shortest
    let zeros (n : Int) : List Char := List.replicate n.toNat '0'
    let body : List Char :=
      if -5 ≤ e ∧ e < 0 then '0' :: '.' :: zeros (-e - 1) ++ digits
      else if 0 ≤ e ∧ e < 16 then
        let whole := digits.take (e.toNat + 1)
        let fraction := digits.drop (e.toNat + 1)
        whole ++ zeros (e + 1 - whole.length) ++
          '.' :: (if fraction.isEmpty then ['0'] else fraction)
      else
        let exponent := Nat.toDigits 10 e.natAbs
        digits.take 1 ++ (if digits.length ≤ 1 then [] else '.' :: digits.drop 1)
          ++ ['e', if e < 0 then '-' else '+'] ++ zeros (2 - exponent.length) ++ exponent
    sign ++ String.ofList body

end JavaDeps.Json
