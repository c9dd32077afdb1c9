/-!
# The shortest decimal that reads back

A binary floating-point number is written with the fewest decimal digits that still lead back to it:
of the numbers with so few digits that round to it, the nearest. The search is exact, on natural
numbers: a number is `m · 2 ^ q`, and what rounds to it is an interval around it, whose ends belong
to it just if `m` is even.
-/

namespace JavaDeps.Decimal

/-- A positive fraction. -/
structure Fraction where
  num : Nat
  den : Nat

/-- `n · 2 ^ q`. -/
def Fraction.ofScaled (n : Nat) (q : Int) : Fraction :=
  if 0 ≤ q then ⟨n * Nat.pow 2 q.toNat, 1⟩ else ⟨n, Nat.pow 2 (-q).toNat⟩

/-- `10 ^ e`. -/
def Fraction.power (e : Int) : Fraction :=
  if 0 ≤ e then ⟨Nat.pow 10 e.toNat, 1⟩ else ⟨1, Nat.pow 10 (-e).toNat⟩

/-- The greatest natural number not above `x / y`. -/
def Fraction.floorDiv (x y : Fraction) : Nat :=
  x.num * y.den / (x.den * y.num)

/-- `n · x`. -/
def Fraction.scale (n : Nat) (x : Fraction) : Fraction := ⟨n * x.num, x.den⟩

/-- Whether `x` is at most `y`. -/
def Fraction.le (x y : Fraction) : Bool := x.num * y.den ≤ y.num * x.den

/-- Whether `x` is less than `y`. -/
def Fraction.lt (x y : Fraction) : Bool := x.num * y.den < y.num * x.den

/-- The distance between two fractions. -/
def Fraction.distance (x y : Fraction) : Fraction :=
  let a := x.num * y.den
  let b := y.num * x.den
  ⟨(a - b) + (b - a), x.den * y.den⟩

/-- A positive double-precision number: `m · 2 ^ q`. -/
structure Double where
  m : Nat
  q : Int

namespace Double

/-- The number that the 63 low bits encode. -/
def ofBits (bits : Nat) : Double :=
  let exponent : Nat := bits / Nat.pow 2 52
  let fraction : Nat := bits % Nat.pow 2 52
  if exponent = 0 then ⟨fraction, -1074⟩ else ⟨fraction + Nat.pow 2 52, (exponent : Int) - 1075⟩

/-- The number itself. -/
def value (d : Double) : Fraction := .ofScaled d.m d.q

/-- Whether a fraction rounds to the number. Below a power of two the numbers lie twice as close. -/
def isRoundingOf (d : Double) (x : Fraction) : Bool :=
  let below := if d.m = Nat.pow 2 52 ∧ d.q ≠ -1074 then 1 else 2
  let low := Fraction.ofScaled (4 * d.m - below) (d.q - 2)
  let high := Fraction.ofScaled (4 * d.m + 2) (d.q - 2)
  if d.m % 2 = 0 then low.le x && x.le high else low.lt x && x.lt high

/-- The exponent of the first decimal digit, searched from `e` downwards. -/
def leadingExponent (d : Double) : Nat → Int → Int
  | 0, e => e
  | fuel + 1, e => if (Fraction.power e).le d.value then e else leadingExponent d fuel (e - 1)

/-- The number with `n` digits, the first of them at `10 ^ e`, that rounds to the number, if there
is one: of two the nearer, and of two as near the even one. -/
def withDigits? (d : Double) (e : Int) (n : Nat) : Option Nat :=
  let unit := Fraction.power (e - (n - 1 : Nat))
  let down := d.value.floorDiv unit
  let hit (k : Nat) : Bool := d.isRoundingOf (unit.scale k)
  match hit down, hit (down + 1) with
  | true, true =>
    let toDown := (unit.scale down).distance d.value
    let toUp := (unit.scale (down + 1)).distance d.value
    if toDown.lt toUp then some down
    else if toUp.lt toDown then some (down + 1)
    else some (if down % 2 = 0 then down else down + 1)
  | true, false => some down
  | false, true => some (down + 1)
  | false, false => none

/-- The shortest decimal: its digits, and the exponent of the first. -/
def shortest (d : Double) : List Char × Int :=
  let e := d.leadingExponent 700 310
  let found := (List.range 17).findSome? fun k ↦ (d.withDigits? e (k + 1)).map fun n ↦ (k + 1, n)
  let (count, digits) := found.getD (1, 0)
  let text := Nat.toDigits 10 digits
  ((text.reverse.dropWhile (· == '0')).reverse, e + ((text.length : Int) - count))

end Double

end JavaDeps.Decimal
