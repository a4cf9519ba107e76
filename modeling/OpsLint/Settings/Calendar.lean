import OpsLint.Text.Basic

/-!
# Dates and times

A settings file can hold a date or a moment, though no option takes one. They can still be shown: as
part of a message, or because they are used as a key. A moment may come with the offset of its time
zone, in minutes.

Only days that exist are dates (`Date.check`), and only times of a day are times.
-/

namespace OpsLint

/-- A day. -/
structure Date where
  year : Nat
  month : Nat
  day : Nat
deriving DecidableEq, Repr

/-- A time of a day, with the offset of its time zone in minutes, if it has one. -/
structure Moment where
  date : Date
  hour : Nat
  minute : Nat
  second : Nat
  micro : Nat := 0
  offset : Option Int := none
deriving DecidableEq, Repr

/-- Why numbers make no date or moment. -/
inductive CalendarError where
  | year (year : Nat)
  | month
  | day
  | hour
  | minute
  | second
  | offset (minutes : Int)
deriving DecidableEq, Repr

namespace Date

/-- The length of a month. -/
def monthLength (year month : Nat) : Nat :=
  if month = 2 then (if year % 4 = 0 ∧ (year % 100 ≠ 0 ∨ year % 400 = 0) then 29 else 28)
  else if month = 4 ∨ month = 6 ∨ month = 9 ∨ month = 11 then 30 else 31

/-- The day of three numbers, if there is one. -/
def check (year month day : Nat) : Except CalendarError Date :=
  if year < 1 then .error (.year year)
  else if month < 1 ∨ 12 < month then .error .month
  else if day < 1 ∨ monthLength year month < day then .error .day
  else .ok { year, month, day }

end Date

/-- Decimal digits, padded with zeros to a width. -/
def padded (width n : Nat) : Text :=
  let digits := Text.ofNat n
  List.replicate (width - digits.length) '0' ++ digits

/-- The moment of a date, a time and an offset, if there is one. -/
def Moment.check (m : Moment) : Except CalendarError Moment := do
  match m.offset with
  | some minutes => if 1440 ≤ minutes.natAbs then throw (.offset minutes)
  | none => pure ()
  let _ ← Date.check m.date.year m.date.month m.date.day
  if 24 ≤ m.hour then throw .hour
  if 60 ≤ m.minute then throw .minute
  if 60 ≤ m.second then throw .second
  return m

/-- An offset of a time zone in days and seconds, the seconds not negative. -/
def offsetParts (minutes : Int) : Text :=
  let days := (minutes / 1440)
  let seconds := (minutes % 1440) * 60
  let dayPart : Text := if days = 0 then "" else "days=" ++ Text.ofInt days
  let secondPart : Text := if seconds = 0 then "" else "seconds=" ++ Text.ofInt seconds
  let parts : Text :=
    if days = 0 ∧ seconds = 0 then "0"
    else Text.join ", " ([dayPart, secondPart].filter (!·.isEmpty))
  "datetime.timedelta(" ++ parts ++ ")"

/-- The wording of an error. -/
def CalendarError.message : CalendarError → Text
  | .year n => "year " ++ Text.ofNat n ++ " is out of range"
  | .month => "month must be in 1..12"
  | .day => "day is out of range for month"
  | .hour => "hour must be in 0..23"
  | .minute => "minute must be in 0..59"
  | .second => "second must be in 0..59"
  | .offset minutes =>
    "offset must be a timedelta strictly between -timedelta(hours=24) and timedelta(hours=24), not " ++
      offsetParts minutes ++ "."

/-- A date as it is read by people. -/
def Date.text (d : Date) : Text :=
  padded 4 d.year ++ "-" ++ padded 2 d.month ++ "-" ++ padded 2 d.day

/-- A moment as it is read by people. -/
def Moment.text (m : Moment) : Text :=
  m.date.text ++ " " ++ padded 2 m.hour ++ ":" ++ padded 2 m.minute ++ ":" ++ padded 2 m.second ++
    (if m.micro = 0 then [] else '.' :: padded 6 m.micro) ++
    (match m.offset with
    | none => []
    | some minutes =>
      (if minutes < 0 then "-" else "+") ++ padded 2 (minutes.natAbs / 60) ++ ":" ++
        padded 2 (minutes.natAbs % 60))

/-- A date as it is written within other values. -/
def Date.quoted (d : Date) : Text :=
  "datetime.date(" ++ Text.join ", " ([d.year, d.month, d.day].map Text.ofNat) ++ ")"

/-- A moment as it is written within other values; seconds are left out if they are zero. -/
def Moment.quoted (m : Moment) : Text :=
  let parts := [m.date.year, m.date.month, m.date.day, m.hour, m.minute] ++
    (if m.micro ≠ 0 then [m.second, m.micro] else if m.second ≠ 0 then [m.second] else [])
  let zone : Text := match m.offset with
    | none => ""
    | some minutes =>
      if minutes = 0 then ", tzinfo=datetime.timezone.utc"
      else ", tzinfo=datetime.timezone(" ++ offsetParts minutes ++ ")"
  "datetime.datetime(" ++ Text.join ", " (parts.map Text.ofNat) ++ zone ++ ")"

end OpsLint
