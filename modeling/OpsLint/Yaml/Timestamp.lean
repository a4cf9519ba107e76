import OpsLint.Decimal.Read
import OpsLint.Settings.Calendar

/-!
# Dates and times as text

A date is written as year, month and day with dashes between them. A time may follow, after a `T` or
blanks, with a fraction of the second and a time zone. Before a time the month and the day can have
a single digit.
-/

namespace OpsLint.Yaml

/-- A date as it is written, with a time or without, before it is known to exist. -/
inductive Timestamp where
  | date (year month day : Nat)
  | moment (moment : Moment)

namespace Timestamp

/-- Between `least` and `most` digits at the start of a text, as many as there are, and the rest. -/
def digits? (least most : Nat) (s : Text) : Option (Text × Text) :=
  let ds := (s.take most).takeWhile Char.isDigit
  if ds.length < least then none else some (ds, s.drop ds.length)

/-- The rest of a text after a character. -/
def after? (c : Char) : Text → Option Text
  | d :: s => if d = c then some s else none
  | [] => none

/-- A blank between the parts of a text. -/
def isGap (c : Char) : Bool := c = ' ' || c = '\t'

/-- The rest of a text after what parts a date from a time. -/
def afterDate? : Text → Option Text
  | c :: s => if c = 'T' || c = 't' then some s
    else if isGap c then some (s.dropWhile isGap) else none
  | [] => none

/-- The millionths of a second that the digits of a fraction denote. -/
def microOf (ds : Text) : Nat :=
  let ds := ds.take 6
  Decimal.digitsValue (ds ++ List.replicate (6 - ds.length) '0')

/-- A fraction of a second, which may be absent, and the rest. -/
def fraction : Text → Nat × Text
  | '.' :: s => (microOf (s.takeWhile Char.isDigit), s.dropWhile Char.isDigit)
  | s => (0, s)

/-- The minutes of an offset, which may be absent, and nothing after them. -/
def zoneMinutes? : Text → Option Nat
  | [] => some 0
  | ':' :: s =>
    match digits? 2 2 s with
    | some (ds, []) => some (Decimal.digitsValue ds)
    | _ => none
  | _ => none

/-- A time zone at the end of a text, which may be absent. -/
def zone? (s : Text) : Option (Option Int) :=
  match s.dropWhile isGap with
  | [] => if s.isEmpty then some none else none
  | c :: rest =>
    if c = 'Z' && rest.isEmpty then some (some 0)
    else if c = '+' || c = '-' then do
      let (hours, rest) ← digits? 1 2 rest
      let minutes ← zoneMinutes? rest
      let total : Int := Decimal.digitsValue hours * 60 + minutes
      return some (if c = '-' then -total else total)
    else none

/-- Reads a date or a time. A date by itself has two digits for the month and the day. -/
def ofText? (s : Text) : Option Timestamp := do
  let (year, s) ← digits? 4 4 s
  let (month, s) ← digits? 1 2 (← after? '-' s)
  let (day, s) ← digits? 1 2 (← after? '-' s)
  let (y, m, d) := (Decimal.digitsValue year, Decimal.digitsValue month, Decimal.digitsValue day)
  if s.isEmpty then
    if month.length = 2 ∧ day.length = 2 then return .date y m d else none
  else
    let (hour, s) ← digits? 1 2 (← afterDate? s)
    let (minute, s) ← digits? 2 2 (← after? ':' s)
    let (second, s) ← digits? 2 2 (← after? ':' s)
    let (micro, s) := fraction s
    let offset ← zone? s
    return .moment
      { date := { year := y, month := m, day := d }
        hour := Decimal.digitsValue hour
        minute := Decimal.digitsValue minute
        second := Decimal.digitsValue second
        micro
        offset }

end Timestamp

end OpsLint.Yaml
