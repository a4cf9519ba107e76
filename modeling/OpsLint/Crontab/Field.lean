import OpsLint.Text.Case
import OpsLint.Text.Numeral

/-!
# Schedule fields

A schedule has five fields. Two tests apply to a field, and they are of different strength.

`isScheduleField` asks whether a token **looks like** a field; it is what tells the schedule from
the command. A field is made of digits, stars, commas, slashes and hyphens, or is a list of names of
months and weekdays and of ranges of these, in any letter case. Letters that differ only in case
from those of a name count as these: the long s for an s, and the dotted and the dotless I for an i.
A line feed after the field does not matter.

`problem?` asks what is **wrong** with a field, given its bounds and the names it may use. A field
is a list of items separated by commas. An item is a star, a value or a range of values, with an
optional step after a slash. A value is a number within bounds or a name of one. The first fault
from the left is reported. Numbers are read from and written as numerals of bounded length, so the
test itself can fail, and so can the wording of what it has found (`complaint?`).
-/

namespace OpsLint.Crontab

/-! ## What looks like a field -/

/-- The months, in order. -/
def monthNames : List Text :=
  ["jan", "feb", "mar", "apr", "may", "jun", "jul", "aug", "sep", "oct", "nov", "dec"]

/-- The weekdays, from Sunday on. -/
def dayNames : List Text := ["sun", "mon", "tue", "wed", "thu", "fri", "sat"]

/-- The small ASCII letter that a letter of a name is compared by. -/
def foldLetter (c : Char) : Char :=
  if c = 'ſ' then 's'
  else if c = 'ı' || c = 'İ' then 'i'
  else c.toLower

/-- A month or weekday in any letter case. -/
def isFieldName (s : Text) : Bool := s.map foldLetter ∈ monthNames ++ dayNames

/-- A name or a range of two names. -/
def isNameItem (s : Text) : Bool :=
  match Text.cut? '-' s with
  | none => isFieldName s
  | some (first, last) => isFieldName first && isFieldName last

/-- A character that can begin a field of numbers. -/
def beginsNumeric (c : Char) : Bool := c.isDigit || c = '*'

/-- A character that can continue a field of numbers. -/
def continuesNumeric (c : Char) : Bool := c.isDigit || c = '*' || c = ',' || c = '/' || c = '-'

/-- A field of numbers, stars and their separators. -/
def isNumericField : Text → Bool
  | [] => false
  | c :: s => beginsNumeric c && s.all continuesNumeric

/-- A field of numbers, or a list of names and ranges of names. -/
def hasFieldShape (s : Text) : Bool := isNumericField s || (Text.splitOn ',' s).all isNameItem

/-- A token looks like a schedule field. -/
def isScheduleField (token : Text) : Bool :=
  hasFieldShape token || (Text.endsWith token '\n' && hasFieldShape token.dropLast)

/-! ## What is wrong with a field -/

/-- Bounds and names of one of the five fields. -/
structure FieldRange where
  low : Nat
  high : Nat
  /-- Names for numbers, if the field can have any. -/
  names : Option (List (Text × Nat)) := none

/-- Names for the numbers from `first` on. -/
def numbered (first : Nat) (names : List Text) : List (Text × Nat) := names.zipIdx first

/-- The months by number. -/
def months : List (Text × Nat) := numbered 1 monthNames

/-- The weekdays by number. -/
def days : List (Text × Nat) := numbered 0 dayNames

/-- What is wrong with a field. -/
inductive FieldProblem where
  | emptyItem
  | badStep (step : Text)
  | badValue (token : Text)
  | outside (value low high : Nat)
  | reversed (range : Text)
deriving DecidableEq

/-- The wording of a problem, which fails if a number in it is too long to be written. -/
def FieldProblem.message : FieldProblem → Except Numeral.Error Text
  | .emptyItem => .ok "empty list item"
  | .badStep step => .ok ("invalid step '" ++ step ++ "'")
  | .badValue token => .ok ("invalid value '" ++ token ++ "'")
  | .outside value low high => do
    return "value " ++ (← Numeral.write value) ++ " is outside " ++ (← Numeral.write low) ++ "-" ++
      (← Numeral.write high)
  | .reversed range => .ok ("range '" ++ range ++ "' is reversed")

/-- Why the test of a field stops: it has found a problem, or met a numeral that cannot be read. -/
inductive FieldStop where
  | problem (problem : FieldProblem)
  | numeral (error : Numeral.Error)
deriving DecidableEq

/-- Reads a text of digits. -/
def readNumber (digits : Text) : Except FieldStop Nat :=
  (Numeral.read digits).mapError .numeral

namespace FieldRange

/-- The number a token denotes, if it denotes one. -/
def number? (range : FieldRange) (token : Text) : Except FieldStop (Option Nat) :=
  if Text.isDigits token then some <$> readNumber token
  else .ok (range.names.bind fun names => names.lookup (Text.lower token))

/-- The value of a token, which has to lie within bounds. -/
def value (range : FieldRange) (token : Text) : Except FieldStop Nat := do
  match ← range.number? token with
  | none => throw (.problem (.badValue token))
  | some n =>
    if range.low ≤ n ∧ n ≤ range.high then return n
    else throw (.problem (.outside n range.low range.high))

/-- The step of an item has to be a number other than zero. -/
def checkStep (step : Text) : Except FieldStop Unit := do
  if Text.isDigits step then
    if (← readNumber step) < 1 then throw (.problem (.badStep step))
  else throw (.problem (.badStep step))

/-- An item without its step has to be a star, a value or a range of values in order. -/
def checkBase (range : FieldRange) (base : Text) : Except FieldStop Unit :=
  if base = "*" then .ok ()
  else match Text.cut? '-' base with
    | none => do
      let _ ← range.value base
    | some (first, last) => do
      let a ← range.value first
      let b ← range.value last
      if b < a then throw (.problem (.reversed base))

/-- An item has to have a valid step, if it has one, and a valid base. -/
def checkItem (range : FieldRange) (item : Text) : Except FieldStop Unit :=
  if item.isEmpty then .error (.problem .emptyItem)
  else match Text.cut? '/' item with
    | none => range.checkBase item
    | some (base, step) => do
      checkStep step
      range.checkBase base

/-- Every item of a field has to be valid. -/
def check (range : FieldRange) (field : Text) : Except FieldStop Unit :=
  (Text.splitOn ',' field).forM range.checkItem

/-- The first problem of a field, from the left. -/
def problem? (range : FieldRange) (field : Text) : Except Numeral.Error (Option FieldProblem) :=
  match range.check field with
  | .ok () => .ok none
  | .error (.problem p) => .ok (some p)
  | .error (.numeral e) => .error e

/-- The first problem of a field in words. -/
def complaint? (range : FieldRange) (field : Text) : Except Numeral.Error (Option Text) := do
  (← range.problem? field).mapM FieldProblem.message

end FieldRange

end OpsLint.Crontab
