import OpsLint.Crontab.Field
import OpsLint.Diagnostic
import OpsLint.Reading
import OpsLint.Text.Identifier

/-!
# Crontabs

A crontab is read line by line, and no line depends on another. Blank lines, comments and
assignments of environment variables mean nothing; every other line is an entry or a problem.

An entry is five schedule fields or the **nickname** of a schedule (`@daily`), then a command. A
first word of the command that is a well-known account names the user the command runs as. All
tokens at the start of the line that look like schedule fields are counted, and there have to be
exactly five: a sixth would be a field that has no place.
-/

namespace OpsLint

namespace Crontab

/-- The five fields of a schedule. -/
structure Schedule where
  minute : Text
  hour : Text
  dayOfMonth : Text
  month : Text
  dayOfWeek : Text
deriving DecidableEq, Repr

/-- The fields in order. -/
def Schedule.fields (s : Schedule) : List Text :=
  [s.minute, s.hour, s.dayOfMonth, s.month, s.dayOfWeek]

/-- The schedule that a nickname stands for. Starting with the machine is no schedule, and has
empty fields. -/
def nicknames : List (Text × Schedule) :=
  [("@yearly", ⟨"0", "0", "1", "1", "*"⟩),
   ("@annually", ⟨"0", "0", "1", "1", "*"⟩),
   ("@monthly", ⟨"0", "0", "1", "*", "*"⟩),
   ("@weekly", ⟨"0", "0", "*", "*", "0"⟩),
   ("@daily", ⟨"0", "0", "*", "*", "*"⟩),
   ("@midnight", ⟨"0", "0", "*", "*", "*"⟩),
   ("@hourly", ⟨"0", "*", "*", "*", "*"⟩),
   ("@reboot", ⟨"", "", "", "", ""⟩)]

/-- Accounts that are taken for the user a command runs as. -/
def knownUsers : List Text :=
  ["root", "nobody", "daemon", "bin", "sys", "www-data", "nginx", "apache", "httpd", "postgres",
   "mysql", "redis", "mail", "backup", "operator", "ubuntu", "ec2-user", "admin"]

/-- A scheduled command. -/
structure Entry where
  schedule : Schedule
  command : Text
  line : Nat
  user : Option Text := none
  /-- The nickname that stood for the schedule. -/
  nickname : Option Text := none
deriving DecidableEq, Repr

/-- Why a line is no entry. -/
inductive Problem where
  | unknownNickname (name : Text)
  | fieldCount (count : Nat)
  | noCommand
deriving DecidableEq, Repr

/-- The wording of a problem. -/
def Problem.message : Problem → Text
  | .unknownNickname name => "Unknown schedule macro '" ++ name ++ "'"
  | .fieldCount count => "Expected 5 schedule fields, found " ++ Text.ofNat count
  | .noCommand => "Cron entry has no command"

/-- What a meaningful line is. -/
inductive Item where
  | entry (entry : Entry)
  | fault (line : Nat) (problem : Problem)
deriving DecidableEq, Repr

/-- A trimmed line that is blank, a comment or the assignment of an environment variable. -/
def isIgnored (body : Text) : Bool :=
  body.isEmpty || body.head? = some '#' || Text.beginsAssignment body

/-- Splits the account off a command, if the first of several words is one. -/
def splitUser (s : Text) : Option Text × Text :=
  let (word, rest) := Text.firstWord s
  if !rest.isEmpty && knownUsers.contains word then (some word, Text.trim rest) else (none, s)

/-- What follows the first `n` words of a text. -/
def afterWords : Nat → Text → Text
  | 0, s => s
  | n + 1, s => afterWords n (Text.firstWord s).2

/-- The schedule at the start of a trimmed line, with its nickname, and what follows it. -/
def readSchedule (body : Text) : Except Problem (Schedule × Option Text × Text) :=
  if body.head? = some '@' then
    let (word, rest) := Text.firstWord body
    let nickname := Text.lower word
    match nicknames.lookup nickname with
    | none => .error (.unknownNickname nickname)
    | some schedule => .ok (schedule, some nickname, rest)
  else
    match (Text.words body).takeWhile isScheduleField with
    | [minute, hour, dayOfMonth, month, dayOfWeek] =>
      .ok (⟨minute, hour, dayOfMonth, month, dayOfWeek⟩, none, afterWords 5 body)
    | fields => .error (.fieldCount fields.length)

/-- Reads a trimmed line that is not ignored. -/
def readEntry (line : Nat) (body : Text) : Except Problem Entry := do
  let (schedule, nickname, rest) ← readSchedule body
  let (user, command) := splitUser (Text.trim rest)
  if command.isEmpty then throw .noCommand
  return { schedule, command, line, user, nickname }

/-- What a line is, if it means anything. -/
def readLine (line : Nat) (raw : Text) : Option Item :=
  let body := Text.trim raw
  if isIgnored body then none
  else some (match readEntry line body with
    | .ok entry => .entry entry
    | .error problem => .fault line problem)

end Crontab

/-- A crontab that has been read. -/
structure Crontab where
  entries : List Crontab.Entry := []
  faults : List (Nat × Crontab.Problem) := []

namespace Crontab

/-- Reading a line of a crontab keeps no state. -/
def step : LineStep Unit Item := fun line raw _ => ((), (readLine line raw).toList)

/-- The items of a crontab, in the order of the lines. -/
def items (lines : List Text) : List Item := (Reading.ofLines step () lines).items

/-- The entry that an item is. -/
def Item.entry? : Item → Option Entry
  | .entry e => some e
  | .fault _ _ => none

/-- The line and problem that an item reports. -/
def Item.fault? : Item → Option (Nat × Problem)
  | .entry _ => none
  | .fault line problem => some (line, problem)

/-- Reads a crontab. -/
def ofLines (lines : List Text) : Crontab :=
  let found := items lines
  { entries := found.filterMap Item.entry?, faults := found.filterMap Item.fault? }

/-- The problems of a crontab as findings. -/
def findings (c : Crontab) : List Finding :=
  c.faults.map fun (line, problem) => { line, column := 1, message := problem.message }

end Crontab

end OpsLint
