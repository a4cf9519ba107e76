import OpsLint.Text.Digit
import OpsLint.Text.Quoted

/-!
# Numerals of bounded length

Whole numbers are read from and written to decimal numerals of at most `Numeral.digitLimit` digits.
A longer numeral is refused in both directions, since converting it takes time quadratic in its
length. Leading zeros count.

`Numeral.read` is for texts that have already been found to consist of digits. Such a text may still
hold a decorated digit, which has no value; then it is refused as malformed, unless its decimal
digits alone already exceed the limit.
-/

namespace OpsLint

namespace Numeral

/-- The greatest number of digits that is converted. -/
def digitLimit : Nat := 4300

/-- Why a number was not converted. -/
inductive Error where
  /-- A numeral of `count` digits, more than the limit, was to be read. -/
  | tooLongToRead (count : Nat)
  /-- A number with more digits than the limit was to be written. -/
  | tooLongToWrite
  /-- The text is no numeral. -/
  | malformed (text : Text)
deriving DecidableEq

/-- The wording of a refusal. A malformed text is quoted, up to 200 characters of it. -/
def Error.message : Error → Text
  | .tooLongToRead count =>
    "Exceeds the limit (" ++ Text.ofNat digitLimit ++
      " digits) for integer string conversion: value has " ++ Text.ofNat count ++
      " digits; use sys.set_int_max_str_digits() to increase the limit"
  | .tooLongToWrite =>
    "Exceeds the limit (" ++ Text.ofNat digitLimit ++
      " digits) for integer string conversion; use sys.set_int_max_str_digits() to increase the limit"
  | .malformed text => "invalid literal for int() with base 10: " ++ (Text.quoted text).take 200

/-- The number that a list of digit values denotes. -/
def ofDigits (digits : List Nat) : Nat := digits.foldl (fun n d => 10 * n + d) 0

/-- Reads a non-empty text of digits. -/
def read (s : Text) : Except Error Nat :=
  let digits := (s.map Text.decimalValue?).takeWhile Option.isSome
  if digitLimit < digits.length then .error (.tooLongToRead digits.length)
  else if digits.length < s.length || s.isEmpty then .error (.malformed s)
  else .ok (ofDigits (digits.filterMap id))

/-- Writes an integer. -/
def write (n : Int) : Except Error Text :=
  if n.natAbs < Nat.pow 10 digitLimit then .ok (Text.ofInt n) else .error .tooLongToWrite

end Numeral

end OpsLint
