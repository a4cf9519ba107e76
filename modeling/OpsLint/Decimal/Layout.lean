import OpsLint.Decimal.Shortest
import OpsLint.Text.Basic

/-!
# Writing numbers

Three ways to write a double. `shortest` shows the fewest digits that read back, `general` six
significant digits without trailing zeros, and `fixed` a given number of decimal places. The first
two choose between a positional and a scientific form by the size of the number, and a `Layout`
says where the one ends and whether a whole number keeps its point.
-/

namespace OpsLint.Decimal

/-- How digits and an exponent are written out. -/
structure Layout where
  /-- The least exponent of the first digit that is written positionally. -/
  leastExponent : Int
  /-- The least exponent of the first digit above it that is not. -/
  scientificFrom : Int
  /-- A whole number in positional form ends in a point and a zero. -/
  keepsPoint : Bool

/-- Sixteen digits before the point, and `.0` after a whole number. -/
def Layout.full : Layout := { leastExponent := -4, scientificFrom := 16, keepsPoint := true }

/-- Six digits before the point, and nothing after a whole number. -/
def Layout.brief : Layout := { leastExponent := -4, scientificFrom := 6, keepsPoint := false }

/-- A text without its trailing zeros. -/
def dropZeros (s : Text) : Text := (s.reverse.dropWhile (· = '0')).reverse

/-- Positional form of the digits `ds`, the first of which has the given exponent. -/
def positional (layout : Layout) (ds : Text) (exponent : Int) : Text :=
  if exponent < 0 then "0." ++ List.replicate (-exponent - 1).toNat '0' ++ ds
  else
    let whole := exponent.toNat + 1
    let digits := ds ++ List.replicate (whole - ds.length) '0'
    if digits.length = whole then (if layout.keepsPoint then digits ++ ".0" else digits)
    else digits.take whole ++ "." ++ digits.drop whole

/-- Scientific form: one digit, the others after a point, and the exponent with its sign and at
least two digits. -/
def scientific (ds : Text) (exponent : Int) : Text :=
  let size := Text.ofNat exponent.natAbs
  ds.take 1 ++ (if ds.length ≤ 1 then [] else '.' :: ds.drop 1) ++
    (if exponent < 0 then "e-" else "e+") ++ (if size.length < 2 then '0' :: size else size)

/-- A decimal in the given layout. -/
def Layout.write (layout : Layout) (d : Decimal) : Text :=
  let all := Text.ofNat d.digits
  let exponent := d.exponent + all.length - 1
  let ds := dropZeros all
  if layout.leastExponent ≤ exponent ∧ exponent < layout.scientificFrom then
    positional layout ds exponent
  else scientific ds exponent

/-- Writes a double, given how to write its sign-free finite values other than zero and what to
write for zero. -/
def writeWith (x : Float) (zero : Text) (finite : Nat → Int → Text) : Text :=
  match Binary.ofFloat x with
  | .nan => "nan"
  | .infinite negative => if negative then "-inf" else "inf"
  | .finite negative m e =>
    (if negative then "-" else "") ++ (if m = 0 then zero else finite m e)

/-- The fewest digits that read back. -/
def shortestText (x : Float) : Text :=
  writeWith x "0.0" fun m e => Layout.full.write (shortest m e)

/-- Six significant digits, without trailing zeros. -/
def generalText (x : Float) : Text :=
  writeWith x "0" fun m e =>
    let value := Ratio.ofBinary m e
    let exponent := value.magnitude - 5
    Layout.brief.write ⟨(value.scale (-exponent)).round, exponent⟩

/-- A number of decimal places; a tie between two neighbours goes to the even one. -/
def fixedText (places : Nat) (x : Float) : Text :=
  let write (m : Nat) (e : Int) : Text :=
    let digits := Text.ofNat ((Ratio.ofBinary m e).scale places).round
    let padded := List.replicate (places + 1 - digits.length) '0' ++ digits
    let whole := padded.length - places
    padded.take whole ++ "." ++ padded.drop whole
  writeWith x (write 0 0) write

end OpsLint.Decimal
