import OpsLint.Diagnostic
import OpsLint.Env.Value
import OpsLint.Reading
import OpsLint.Text.Identifier

/-!
# Environment files

A line of an environment file assigns a value to a key. It may be indented and may begin with
`export`; blank lines and comments mean nothing, and every other line that is not an assignment is a
problem. No line depends on another.

An assignment keeps the text on both sides of its equals sign as written, so that the line can be
put together again from it: the indentation and `export`, then `rawKey`, `=` and `rawValue`. What
they mean, key and value, is the same without the blanks, quotes and comments.
-/

namespace OpsLint

namespace Env

/-- A key with its value, as written and as meant. -/
structure Assignment where
  key : Text
  rawValue : Text
  quoted : Bool
  line : Nat
  rawKey : Text
  /-- The column of the equals sign. -/
  equalsColumn : Nat
deriving DecidableEq, Repr

namespace Assignment

/-- The value meant. -/
def value (a : Assignment) : Text := unquote a.rawValue

/-- There are blanks before or after the equals sign. -/
def hasSpacing (a : Assignment) : Bool :=
  a.rawKey != Text.trimRight a.rawKey || a.rawValue != Text.trimLeft a.rawValue

end Assignment

/-- Why a line is no assignment. -/
inductive Problem where
  | noEquals (body : Text)
  | noKey
  | badKey (key : Text)
  | unterminated (key : Text)
  | textAfterQuote (key : Text)
deriving DecidableEq, Repr

/-- The wording of a problem. -/
def Problem.message : Problem → Text
  | .noEquals body => "Expected KEY=VALUE, got '" ++ body ++ "'"
  | .noKey => "Missing key before '='"
  | .badKey key => "Invalid key '" ++ key ++ "'"
  | .unterminated key => "Unterminated quoted value for '" ++ key ++ "'"
  | .textAfterQuote key => "Unexpected text after quoted value for '" ++ key ++ "'"

/-- A problem with its place. -/
structure Fault where
  line : Nat
  column : Nat
  problem : Problem
deriving DecidableEq, Repr

/-- What a meaningful line is. -/
inductive Item where
  | assignment (assignment : Assignment)
  | fault (fault : Fault)
deriving DecidableEq, Repr

/-- What follows the word `export` and blanks, if a text begins so. -/
def afterExport? (s : Text) : Option Text :=
  match Text.dropStart? "export" s with
  | some (c :: rest) => if Text.isBlank c then some (Text.trimLeft rest) else none
  | _ => none

/-- A line without its indentation and `export`. -/
def assignmentPart (raw : Text) : Text :=
  let body := Text.trimLeft raw
  (afterExport? body).getD body

/-- The problem of what stands after the equals sign of a key: a quote has to be closed, and only a
comment may follow it. -/
def valueProblem? (key rawValue : Text) : Option Problem :=
  let value := Text.trim rawValue
  if beginsQuoted value then
    match closingQuote? value with
    | none => some (.unterminated key)
    | some stop =>
      let rest := Text.trim (value.drop (stop + 1))
      if rest.isEmpty || rest.head? = some '#' then none else some (.textAfterQuote key)
  else none

/-- Reads a line that is neither blank nor a comment. -/
def readAssignment (line : Nat) (raw : Text) : Except Fault Assignment := do
  let body := assignmentPart raw
  let indent := raw.length - body.length
  match Text.cut? '=' body with
  | none => throw ⟨line, indent + 1, .noEquals (Text.trim raw)⟩
  | some (rawKey, rawValue) =>
    let key := Text.trim rawKey
    if key.isEmpty then throw ⟨line, indent + 1, .noKey⟩
    if !Text.isKey key then throw ⟨line, indent + 1, .badKey key⟩
    if let some problem := valueProblem? key rawValue then throw ⟨line, 0, problem⟩
    return {
      key, rawValue, line, rawKey
      quoted := beginsQuoted (Text.trim rawValue)
      equalsColumn := indent + rawKey.length + 1 }

/-- A trimmed line that is blank or a comment. -/
def isIgnored (body : Text) : Bool := body.isEmpty || body.head? = some '#'

/-- What a line is, if it means anything. -/
def readLine (line : Nat) (raw : Text) : Option Item :=
  if isIgnored (Text.trim raw) then none
  else some (match readAssignment line raw with
    | .ok assignment => .assignment assignment
    | .error fault => .fault fault)

/-- Reading a line of an environment file keeps no state. -/
def step : LineStep Unit Item := fun line raw _ => ((), (readLine line raw).toList)

/-- The items of an environment file, in the order of the lines. -/
def items (lines : List Text) : List Item := (Reading.ofLines step () lines).items

/-- The assignment that an item is. -/
def Item.assignment? : Item → Option Assignment
  | .assignment a => some a
  | .fault _ => none

/-- The fault that an item is. -/
def Item.fault? : Item → Option Fault
  | .assignment _ => none
  | .fault f => some f

end Env

/-- An environment file that has been read. -/
structure Env where
  assignments : List Env.Assignment := []
  faults : List Env.Fault := []

namespace Env

/-- Reads an environment file. -/
def ofLines (lines : List Text) : Env :=
  let found := items lines
  { assignments := found.filterMap Item.assignment?, faults := found.filterMap Item.fault? }

/-- The problems of an environment file as findings. -/
def findings (e : Env) : List Finding :=
  e.faults.map fun f => { line := f.line, column := f.column, message := f.problem.message }

end Env

end OpsLint
