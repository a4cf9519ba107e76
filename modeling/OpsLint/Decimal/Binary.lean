/-!
# Binary floating-point numbers

A double is `± mantissa · 2 ^ exponent`, an infinity, or no number at all. `Binary.ofFloat` reads
this off the 64 bits, and everything that follows, rounding to decimal places or finding the
shortest decimal, is done in exact arithmetic on `mantissa` and `exponent`.

`Ratio` is the form in which a finite value is compared with powers of ten: a numerator over a
positive denominator.
-/

namespace OpsLint

/-- The value of a double. -/
inductive Binary where
  | nan
  | infinite (negative : Bool)
  /-- The value `± mantissa · 2 ^ exponent`. -/
  | finite (negative : Bool) (mantissa : Nat) (exponent : Int)
deriving DecidableEq

namespace Binary

/-- The value that the bits of a double denote. -/
def ofFloat (x : Float) : Binary :=
  let bits := x.toBits.toNat
  let negative := bits / Nat.pow 2 63 == 1
  let biased : Nat := bits / Nat.pow 2 52 % Nat.pow 2 11
  let fraction := bits % Nat.pow 2 52
  if biased == Nat.pow 2 11 - 1 then (if fraction == 0 then .infinite negative else .nan)
  else if biased == 0 then .finite negative fraction (-1074)
  else .finite negative (fraction + Nat.pow 2 52) ((biased : Int) - 1075)

/-- The integer that a finite value is, if it is one. -/
def toInt? : Binary → Option Int
  | .finite negative mantissa exponent =>
    let size? : Option Nat :=
      if 0 ≤ exponent then some (mantissa * Nat.pow 2 exponent.toNat)
      else if mantissa % Nat.pow 2 (-exponent).toNat == 0 then
        some (mantissa / Nat.pow 2 (-exponent).toNat)
      else none
    size?.map fun size => if negative then -(size : Int) else size
  | _ => none

end Binary

/-- The non-negative number `num / den`. -/
structure Ratio where
  num : Nat
  den : Nat
  den_pos : 0 < den

namespace Ratio

/-- The number `m · 2 ^ e`. -/
def ofBinary (m : Nat) (e : Int) : Ratio :=
  { num := m * Nat.pow 2 e.toNat
    den := Nat.pow 2 (-e).toNat
    den_pos := Nat.pow_pos (by decide) }

/-- A ratio times a power of ten. -/
def scale (r : Ratio) (e : Int) : Ratio :=
  { num := r.num * Nat.pow 10 e.toNat
    den := r.den * Nat.pow 10 (-e).toNat
    den_pos := Nat.mul_pos r.den_pos (Nat.pow_pos (by decide)) }

/-- The greatest integer that is not above a ratio. -/
def floor (r : Ratio) : Nat := r.num / r.den

/-- The integer nearest to a ratio; a tie goes to the even one. -/
def round (r : Ratio) : Nat :=
  let q := r.num / r.den
  let twice := 2 * (r.num % r.den)
  if twice < r.den then q
  else if r.den < twice then q + 1
  else if q % 2 == 0 then q else q + 1

/-- The exponent of the greatest power of ten that is not above a positive ratio. The search below
one covers every double. -/
def magnitude (r : Ratio) : Int :=
  if r.den ≤ r.num then (Nat.toDigits 10 r.floor).length - 1
  else match (List.range 400).find? fun j => r.den ≤ r.num * Nat.pow 10 j with
    | some j => -(j : Int)
    | none => 0

end Ratio

end OpsLint
