import OpsLint.Decimal.Binary

/-!
# The shortest decimal of a double

Of the decimals that read back as a given double, those with the fewest digits are the ones to
show, and of these the nearest.

A decimal reads back as the double if it lies in the interval of the numbers that round to it. The
interval reaches half way to the neighbouring doubles, and its ends belong to it if the mantissa is
even. For 1, 2, … digits, the two decimals of that many digits that enclose the double are tried: if
any decimal of that length lies in the interval, one of these does. Seventeen digits always suffice.
-/

namespace OpsLint

/-- The number `digits · 10 ^ exponent`. -/
structure Decimal where
  digits : Nat
  exponent : Int
deriving DecidableEq

namespace Decimal

/-- The numbers that round to a double. -/
structure Interval where
  low : Ratio
  high : Ratio
  closed : Bool

/-- The interval of the numbers that round to the positive double `mantissa · 2 ^ exponent`. Below a
power of two the doubles lie twice as close, except at the bottom of their range. -/
def intervalOf (mantissa : Nat) (exponent : Int) : Interval :=
  let narrow := mantissa == Nat.pow 2 52 && exponent != -1074
  { low := Ratio.ofBinary (4 * mantissa - (if narrow then 1 else 2)) (exponent - 2)
    high := Ratio.ofBinary (4 * mantissa + 2) (exponent - 2)
    closed := mantissa % 2 == 0 }

/-- The decimal `n · 10 ^ e` lies in the interval. -/
def Interval.holds (i : Interval) (n : Nat) (e : Int) : Bool :=
  let low := i.low.scale (-e)
  let high := i.high.scale (-e)
  if i.closed then low.num ≤ n * low.den && n * high.den ≤ high.num
  else low.num < n * low.den && n * high.den < high.num

/-- A decimal of `count` digits in the interval of a value of the given magnitude, if there is
one. -/
def withDigits? (value : Ratio) (interval : Interval) (magnitude : Int) (count : Nat) :
    Option Decimal :=
  let e := magnitude - count + 1
  let scaled := value.scale (-e)
  let below := scaled.floor
  let nearest := scaled.round
  let other := if nearest = below then below + 1 else below
  if interval.holds nearest e then some ⟨nearest, e⟩
  else if interval.holds other e then some ⟨other, e⟩
  else none

/-- The shortest decimal that reads back as the positive double `mantissa · 2 ^ exponent`. -/
def shortest (mantissa : Nat) (exponent : Int) : Decimal :=
  let value := Ratio.ofBinary mantissa exponent
  let interval := intervalOf mantissa exponent
  let magnitude := value.magnitude
  match (List.range 17).findSome? fun i => withDigits? value interval magnitude (i + 1) with
  | some d => d
  | none => ⟨(value.scale (16 - magnitude)).round, magnitude - 16⟩

end Decimal

end OpsLint
