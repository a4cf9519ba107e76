import OpsLint.Crontab.Basic

/-!
# Rules for crontabs

Two rules. The fields of every schedule that is written out have to be valid for their places
(`invalidFields`), and a job should not run every minute (`everyMinute`). Schedules given by a
nickname are valid and rare by construction, and are passed over.
-/

namespace OpsLint.Crontab

/-- What can be set about crontabs. -/
structure Options where
  /-- Jobs may run every minute. -/
  allowEveryMinute : Bool := false

/-- The five fields: label, bounds and names. -/
def fieldRanges : List (Text × FieldRange) :=
  [("minute", { low := 0, high := 59 }),
   ("hour", { low := 0, high := 23 }),
   ("day-of-month", { low := 1, high := 31 }),
   ("month", { low := 1, high := 12, names := some months }),
   ("day-of-week", { low := 0, high := 7, names := some days })]

/-- The finding about one field of an entry, if there is a problem with it. -/
def fieldFinding? (line : Nat) (field label : Text) (range : FieldRange) :
    Except Numeral.Error (Option Finding) := do
  return (← range.complaint? field).map fun complaint =>
    { line
      message := "Invalid " ++ label ++ " field '" ++ field ++ "': " ++ complaint }

/-- The findings about the fields of an entry. -/
def entryFindings (e : Entry) : Except Numeral.Error (List Finding) :=
  if e.nickname.isSome then .ok []
  else do
    let found ← (e.schedule.fields.zip fieldRanges).mapM fun (field, label, range) =>
      fieldFinding? e.line field label range
    return found.filterMap id

/-- Fields that are not valid for their places. -/
def invalidFields (c : Crontab) : Except Numeral.Error (List Finding) := do
  return (← c.entries.mapM entryFindings).flatten

/-- A written schedule that runs every minute. -/
def Entry.isEveryMinute (e : Entry) : Bool :=
  e.nickname.isNone && (e.schedule.minute = "*" || e.schedule.minute = "*/1")

/-- Jobs that run every minute. -/
def everyMinute (options : Options) (c : Crontab) : List Finding :=
  if options.allowEveryMinute then []
  else (c.entries.filter Entry.isEveryMinute).map fun e =>
    { line := e.line, message := "Job runs every minute: " ++ e.command }

end OpsLint.Crontab
