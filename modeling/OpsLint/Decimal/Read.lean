import OpsLint.Decimal.Binary
import OpsLint.Text.Basic

/-!
# Reading numbers

A decimal number is an optional sign, digits with at most one point among or around them, and
optionally an exponent; `inf`, `infinity` and `nan` are numbers too, in any letter case. Blanks
around the number are ignored, and a single underscore may stand between two digits.

The value is the double nearest to the number. A number too large for a double reads as infinite and
one too small as zero; both are decided by the count of digits and the exponent alone, before any
power of ten is computed.
-/

namespace OpsLint.Decimal

/-- Digits with single underscores between them: the digits without the underscores, and the rest of
the text. No digit at all is not refused here. -/
def readDigits : Text → Text × Text
  | c :: '_' :: d :: s =>
    if c.isDigit && d.isDigit then
      let (ds, rest) := readDigits (d :: s)
      (c :: ds, rest)
    else if c.isDigit then ([c], '_' :: d :: s) else ([], c :: '_' :: d :: s)
  | c :: s =>
    if c.isDigit then
      let (ds, rest) := readDigits s
      (c :: ds, rest)
    else ([], c :: s)
  | [] => ([], [])

/-- The number that ASCII digits denote. -/
def digitsValue (ds : Text) : Nat := ds.foldl (fun n c => 10 * n + (c.toNat - '0'.toNat)) 0

/-- The sign of a number, which may be absent, and what follows it. -/
def readSign : Text → Bool × Text
  | '-' :: s => (true, s)
  | '+' :: s => (false, s)
  | s => (false, s)

/-- The exponent after the digits of a number, which may be absent, and nothing after it. -/
def readExponent? : Text → Option Int
  | [] => some 0
  | c :: s =>
    if c = 'e' || c = 'E' then
      let (negative, s) := readSign s
      match readDigits s with
      | ([], _) => none
      | (ds, []) => some (if negative then -(digitsValue ds : Int) else digitsValue ds)
      | _ => none
    else none

/-- The double nearest to `mantissa · 10 ^ exponent`, where `count` bounds the number of digits of
the mantissa. -/
def nearest (mantissa count : Nat) (exponent : Int) : Float :=
  if mantissa = 0 then 0
  else if 400 < exponent + count then 1.0 / 0.0
  else if exponent + count < -400 then 0
  else Float.ofScientific mantissa (exponent < 0) exponent.natAbs

/-- Digits with a point, and an exponent. -/
def readUnsigned? (s : Text) : Option Float :=
  let (whole, s) := readDigits s
  let (fraction, s) := match s with
    | '.' :: s => readDigits s
    | s => ([], s)
  if whole.isEmpty && fraction.isEmpty then none
  else (readExponent? s).map fun e =>
    nearest (digitsValue (whole ++ fraction)) (whole.length + fraction.length) (e - fraction.length)

/-- Reads a number without blanks around it. -/
def readTrimmed? (s : Text) : Option Float :=
  let (negative, body) := readSign s
  let word := body.map Char.toLower
  let size? : Option Float :=
    if word = "inf" || word = "infinity" then some (1.0 / 0.0)
    else if word = "nan" then some (0.0 / 0.0)
    else readUnsigned? body
  size?.map fun x => if negative then -x else x

/-- Reads a number. -/
def read? (s : Text) : Option Float := readTrimmed? (Text.trim s)

/-- The double nearest to an integer, unless the integer lies beyond the doubles. -/
def ofInt? (n : Int) : Option Float :=
  if Nat.pow 2 1024 ≤ n.natAbs then none
  else
    let size := Float.ofScientific n.natAbs false 0
    if size.isInf then none else some (if n < 0 then -size else size)

end OpsLint.Decimal
