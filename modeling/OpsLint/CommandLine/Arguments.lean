import OpsLint.Assoc
import OpsLint.Text.Basic

/-!
# Arguments

The arguments of a command are options and operands, in any order. An option has a long name, and
some have a letter too. Most take a value: after an equals sign, as the rest of a cluster of
letters, or as the next argument, whatever that looks like. After a double dash all arguments are
operands.

Arguments are read one after the other. Between two of them it is enough to know what has been
given, whether an option awaits its value, and whether the double dash has come.
-/

namespace OpsLint

/-- Why the arguments make no command. -/
inductive UsageError where
  | noCommand
  | unknownCommand (name : Text)
  | unknownOption (name : Text)
  | missingValue (name : Text)
  | unexpectedValue (name : Text)
  | missingPaths
  | notInteger (value : Text)
  | notNumber (value : Text)
  | unknownFormat
  /-- A key and a value were expected. -/
  | notPair (item : Text)
  /-- A section and a key in it were expected. -/
  | notOption (item : Text)
  | badValue (value : Text)
  | unknownKind (name : Text)
deriving DecidableEq

/-- The wording of an error. -/
def UsageError.message : UsageError → Text
  | .noCommand => "missing command"
  | .unknownCommand name => "no such command '" ++ name ++ "'"
  | .unknownOption name => "no such option '" ++ name ++ "'"
  | .missingValue name => "option '" ++ name ++ "' needs a value"
  | .unexpectedValue name => "option '" ++ name ++ "' takes no value"
  | .missingPaths => "missing paths"
  | .notInteger value => "'" ++ value ++ "' is not an integer"
  | .notNumber value => "'" ++ value ++ "' is not a number"
  | .unknownFormat => "expected one of: text, json"
  | .notPair item => "expected KEY=VALUE, got '" ++ item ++ "'"
  | .notOption item => "expected SECTION.KEY=VALUE, got '" ++ item ++ "'"
  | .badValue value => "cannot parse value '" ++ value ++ "'"
  | .unknownKind name => "unknown file type '" ++ name ++ "'"

/-- An option that a command knows. -/
structure OptionForm where
  /-- The name after a double dash. -/
  name : Text
  letter : Option Char := none
  takesValue : Bool := true

/-- The options and the operands of a command. -/
structure Arguments where
  /-- The options with their values, in order. An option without a value has an empty one. -/
  given : List (Text × Text) := []
  operands : List Text := []
deriving DecidableEq

namespace Arguments

/-- All values of an option, in order. -/
def values (a : Arguments) (name : Text) : List Text :=
  (a.given.filter (·.1 = name)).map (·.2)

/-- The value of an option, which is the last that is given. -/
def value? (a : Arguments) (name : Text) : Option Text := (a.values name).getLast?

/-! ## Reading -/

/-- The reading of arguments. -/
structure Progress where
  done : Arguments := {}
  /-- The option that the next argument is the value of. -/
  awaiting : Option Text := none
  /-- The double dash has come. -/
  ended : Bool := false

namespace Progress

/-- Adds an option. -/
def give (p : Progress) (name value : Text) : Progress :=
  { p with done := { p.done with given := p.done.given ++ [(name, value)] }, awaiting := none }

/-- Adds an operand. -/
def addOperand (p : Progress) (operand : Text) : Progress :=
  { p with done := { p.done with operands := p.done.operands ++ [operand] } }

/-- Reads an option by its long name, with the value after an equals sign, if there is one. -/
def readLong (p : Progress) (form : OptionForm) (value : Option Text) :
    Except UsageError Progress :=
  match form.takesValue, value with
  | true, some value => .ok (p.give form.name value)
  | true, none => .ok { p with awaiting := some form.name }
  | false, none => .ok (p.give form.name "")
  | false, some _ => .error (.unexpectedValue form.name)

/-- Reads a cluster of letters. The first option among them that takes a value ends it. -/
def readLetters (forms : List OptionForm) (p : Progress) : Text → Except UsageError Progress
  | [] => .ok p
  | c :: rest =>
    match forms.find? (·.letter = some c) with
    | none => .error (.unknownOption ['-', c])
    | some form =>
      if form.takesValue then
        .ok (if rest.isEmpty then { p with awaiting := some form.name } else p.give form.name rest)
      else readLetters forms (p.give form.name "") rest

/-- Reads an argument that begins with a dash and is longer. -/
def readOption (forms : List OptionForm) (p : Progress) (arg : Text) :
    Except UsageError Progress :=
  match Text.dropStart? "--" arg with
  | some body =>
    let (name, value) : Text × Option Text := match Text.cut? '=' body with
      | some (name, value) => (name, some value)
      | none => (body, none)
    match forms.find? (·.name = name) with
    | some form => p.readLong form value
    | none => .error (.unknownOption arg)
  | none => p.readLetters forms (arg.drop 1)

/-- Reads an argument. -/
def read (forms : List OptionForm) (p : Progress) (arg : Text) : Except UsageError Progress :=
  match p.awaiting with
  | some name => .ok (p.give name arg)
  | none =>
    if p.ended then .ok (p.addOperand arg)
    else if arg = ("--" : Text) then .ok { p with ended := true }
    else if arg.head? = some '-' ∧ 1 < arg.length then p.readOption forms arg
    else .ok (p.addOperand arg)

end Progress

/-- Reads arguments. -/
def read (forms : List OptionForm) (args : List Text) : Except UsageError Arguments := do
  let p ← args.foldlM (Progress.read forms) {}
  match p.awaiting with
  | some name => throw (.missingValue name)
  | none => return p.done

end Arguments

end OpsLint
