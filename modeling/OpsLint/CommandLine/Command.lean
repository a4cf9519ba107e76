import OpsLint.CommandLine.Arguments
import OpsLint.Settings.File
import OpsLint.Text.Case

/-!
# Commands

There are three commands. `lint` checks files, `rules` lists the rules, and `detect` tells the kinds
of files. The first argument names the command.

Errors in the form of the arguments come before errors in what they mean, and among these the format
comes first, then severities, then options. A value of an option is written in YAML.
-/

namespace OpsLint

/-- The form of results. -/
inductive OutputFormat where
  | text
  | json
deriving DecidableEq, Repr

/-- A command. -/
inductive Command where
  | lint (paths : List Path) (settingsFile : Option Path) (format : OutputFormat)
    (overrides : Overrides)
  | rules (kind : Option (Option FileKind)) (format : OutputFormat)
  | detect (paths : List Path)

/-- Why there is no command. -/
inductive CommandError where
  | usage (error : UsageError)
  /-- A scalar among the values of options has no value. -/
  | badScalar (error : Yaml.Error)
deriving DecidableEq

/-! ## Values of options -/

/-- Reads the form of results, in any letter case. -/
def OutputFormat.ofText (s : Text) : Except UsageError OutputFormat :=
  if Text.lower s = ("text" : Text) then .ok .text
  else if Text.lower s = ("json" : Text) then .ok .json
  else .error .unknownFormat

/-- The digits of a number, with single underscores between them. -/
def spacedDigits? (s : Text) : Option (List Nat) :=
  let parts := Text.splitOn '_' s
  if parts.any List.isEmpty then none else (parts.flatten).mapM Text.decimalValue?

/-- Reads an integer, which can have blanks around it and a sign. -/
def readInteger (s : Text) : Except UsageError Int :=
  let (negative, body) := Decimal.readSign (Text.trim s)
  match spacedDigits? body with
  | some digits =>
    if Numeral.digitLimit < digits.length then .error (.notInteger s)
    else
      let size : Int := Numeral.ofDigits digits
      .ok (if negative then -size else size)
  | none => .error (.notInteger s)

/-- A text with the digits of other scripts replaced. -/
def plainDigits (s : Text) : Text :=
  s.map fun c => match Text.decimalValue? c with
    | some d => Char.ofNat ('0'.toNat + d)
    | none => c

/-- Reads a number. -/
def readNumber (s : Text) : Except UsageError Float :=
  match Decimal.read? (plainDigits s) with
  | some x => .ok x
  | none => .error (.notNumber s)

/-- A key and a value with an equals sign between them, neither of them blank. -/
def readPair (item : Text) : Except UsageError (Text × Text) :=
  match Text.cut? '=' item with
  | some (key, value) =>
    let (key, value) := (Text.trim key, Text.trim value)
    if key.isEmpty || value.isEmpty then .error (.notPair item) else .ok (key, value)
  | none => .error (.notPair item)

/-- An option of a section, and its value. -/
structure OptionItem where
  sectionName : Text
  key : Text
  value : Value

/-- Reads an option of a section. -/
def OptionItem.ofText (item : Text) : Except CommandError OptionItem := do
  let (target, raw) ← (readPair item).mapError .usage
  match Text.cut? '.' target with
  | some (sectionName, key) =>
    if sectionName.isEmpty || key.isEmpty then throw (.usage (.notOption item))
    match Yaml.read raw with
    | .ok value => return { sectionName, key, value }
    | .error .malformed => throw (.usage (.badValue raw))
    | .error e => throw (.badScalar e)
  | none => throw (.usage (.notOption item))

/-- Adds an option to those of its section. -/
def OptionItem.addTo (table : List (Text × List (Text × Value))) (item : OptionItem) :
    List (Text × List (Text × Value)) :=
  Assoc.modify item.sectionName [] (Assoc.put item.key item.value) table

/-! ## The commands -/

/-- The options of `lint`. -/
def lintForms : List OptionForm :=
  [{ name := "config", letter := some 'c' }, { name := "format", letter := some 'f' },
   { name := "severity", letter := some 's' }, { name := "disable" }, { name := "enable" },
   { name := "set" }, { name := "workers", letter := some 'w' }, { name := "timeout" },
   { name := "max-file-size" }, { name := "verbose", letter := some 'v', takesValue := false }]

/-- The options of `rules`. -/
def rulesForms : List OptionForm :=
  [{ name := "type", letter := some 't' }, { name := "format", letter := some 'f' }]

/-- The operands of a command as paths, of which there has to be one. -/
def readPaths (a : Arguments) : Except UsageError (List Path) :=
  if a.operands.isEmpty then .error .missingPaths else .ok (a.operands.map Path.ofText)

/-- The form of results that is asked for. -/
def readFormat (a : Arguments) : Except UsageError OutputFormat :=
  match a.value? "format" with
  | some s => OutputFormat.ofText s
  | none => .ok .text

/-- Reads the arguments of `lint`. -/
def readLint (args : List Text) : Except CommandError Command := do
  let usage {α : Type} (x : Except UsageError α) : Except CommandError α := x.mapError .usage
  let a ← usage (Arguments.read lintForms args)
  let workers ← usage ((a.value? "workers").mapM readInteger)
  let timeout ← usage ((a.value? "timeout").mapM readNumber)
  let maxFileSize ← usage ((a.value? "max-file-size").mapM readInteger)
  let paths ← usage (readPaths a)
  let format ← usage (readFormat a)
  let severities ← usage ((a.values "severity").mapM readPair)
  let options ← (a.values "set").mapM OptionItem.ofText
  return .lint paths ((a.value? "config").map Path.ofText) format
    { severities := severities.foldl (fun acc (id, word) => Assoc.put id (Value.str word) acc) []
      disable := a.values "disable"
      enable := a.values "enable"
      options := options.foldl OptionItem.addTo []
      workers := workers.map .int
      timeout := timeout.map .float
      maxFileSize := maxFileSize.map .int }

/-- The kind whose rules are asked for. There are no rules for files of unknown kind. -/
def readKind (name : Text) : Except UsageError (Option FileKind) :=
  let word := Text.lower name
  if word = FileKind.nameOrUnknown none then .ok none
  else match FileKind.ofName? word with
    | some kind => .ok (some kind)
    | none => .error (.unknownKind name)

/-- Reads the arguments of `rules`, which has no operands. -/
def readRules (args : List Text) : Except UsageError Command := do
  let a ← Arguments.read rulesForms args
  if !a.operands.isEmpty then throw (.unexpectedValue "rules")
  let format ← readFormat a
  let kind ← (a.value? "type").mapM readKind
  return .rules kind format

/-- Reads the arguments of `detect`. -/
def readDetect (args : List Text) : Except UsageError Command := do
  return .detect (← readPaths (← Arguments.read [] args))

/-- Reads the name of a command and its arguments. -/
def Command.ofNamed : List Text → Except CommandError Command
  | [] => .error (.usage .noCommand)
  | name :: args =>
    if name = ("lint" : Text) then readLint args
    else if name = ("rules" : Text) then (readRules args).mapError .usage
    else if name = ("detect" : Text) then (readDetect args).mapError .usage
    else .error (.usage (.unknownCommand name))

/-- Reads a command line. There are no options before the name of the command, only a double dash.
-/
def Command.ofArgs (args : List Text) : Except CommandError Command :=
  match args with
  | ['-', '-'] :: rest => ofNamed rest
  | args => ofNamed args

end OpsLint
