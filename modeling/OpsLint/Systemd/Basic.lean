import OpsLint.Diagnostic
import OpsLint.Reading

/-!
# Systemd units

A unit is a sequence of sections, each a header in brackets and the directives `Key=Value` after it.
Blank lines and comments mean nothing. A directive that ends in a backslash is continued by the next
line, whatever that line is; headers are never continued.

Reading yields one **item** for each header, directive and problem, in the order of the lines
(`items`). While reading, it only matters whether a section is open: a malformed header closes the
section before it, and directives up to the next header have no place then. The sections are the
items cut up at the headers (`sectionsOf`).
-/

namespace OpsLint

namespace Systemd

/-- A key with its value. -/
structure Directive where
  key : Text
  value : Text
  line : Nat
deriving DecidableEq, Repr

/-- A header with the directives after it. -/
structure Section where
  name : Text
  line : Nat
  directives : List Directive := []
deriving DecidableEq, Repr

/-- The last directive of a section with a given key. -/
def Section.get? (s : Section) (key : Text) : Option Directive :=
  s.directives.reverse.find? (·.key = key)

/-- Why a line is neither a header nor a directive. -/
inductive Problem where
  | badHeader (text : Text)
  | noSection
  | noEquals (text : Text)
  | noKey
deriving DecidableEq, Repr

/-- The wording of a problem. -/
def Problem.message : Problem → Text
  | .badHeader text => "Malformed section header '" ++ text ++ "'"
  | .noSection => "Directive appears before any [Section] header"
  | .noEquals text => "Expected Key=Value, got '" ++ text ++ "'"
  | .noKey => "Missing key before '='"

/-- What a line, with its continuations, is. -/
inductive Item where
  | header (line : Nat) (name : Text)
  | directive (directive : Directive)
  | fault (line : Nat) (problem : Problem)
deriving DecidableEq, Repr

/-- What later lines depend on. -/
structure State where
  /-- A section has been opened by a well-formed header. -/
  inSection : Bool := false
  /-- A directive to be continued: its first line, and its text up to the backslash, included. -/
  continued : Option (Nat × Text) := none
deriving DecidableEq, Repr

/-- The name in a well-formed header. -/
def headerName? (body : Text) : Option Text :=
  match body with
  | '[' :: rest =>
    let name := rest.dropLast
    if rest.getLast? = some ']' && !name.isEmpty && !name.contains '[' && !name.contains ']' then
      some (Text.trim name)
    else none
  | _ => none

/-- What a complete directive is. -/
def readDirective (inSection : Bool) (line : Nat) (text : Text) : Item :=
  if !inSection then .fault line .noSection
  else match Text.cut? '=' text with
    | none => .fault line (.noEquals text)
    | some (key, value) =>
      if (Text.trim key).isEmpty then .fault line .noKey
      else .directive { key := Text.trim key, value := Text.trim value, line }

/-- A trimmed line that is blank or a comment. -/
def isIgnored (body : Text) : Bool := body.isEmpty || body.head? = some '#' || body.head? = some ';'

/-- Goes on with a directive that begins on a given line: the backslash at its end asks for one more
line. -/
def State.directive (st : State) (line : Nat) (text : Text) : State × List Item :=
  if Text.endsWith text '\\' then ({ st with continued := some (line, text) }, [])
  else ({ st with continued := none }, [readDirective st.inSection line text])

/-- Reads one line. -/
def step : LineStep State Item := fun line raw st =>
  let body := Text.trim raw
  match st.continued with
  | some (first, text) => st.directive first (Text.trimRight text.dropLast ++ " " ++ body)
  | none =>
    if isIgnored body then (st, [])
    else if body.head? = some '[' then
      match headerName? body with
      | some name => ({ st with inSection := true }, [.header line name])
      | none => ({ st with inSection := false }, [.fault line (.badHeader body)])
    else st.directive line body

/-- A directive that is continued past the last line keeps its backslash. -/
def State.finish (st : State) : List Item :=
  match st.continued with
  | some (line, text) => [readDirective st.inSection line text]
  | none => []

/-- The items of a unit, in the order of the lines. -/
def items (lines : List Text) : List Item :=
  let r := Reading.ofLines step {} lines
  r.items ++ r.state.finish

/-- The sections of a list of items, read from its end: `loose` holds the directives whose header is
still to come. -/
structure Sections where
  done : List Section := []
  loose : List Directive := []

/-- Puts one item in front of the sections of those after it. -/
def Sections.add (item : Item) (s : Sections) : Sections :=
  match item with
  | .header line name => { done := { name, line, directives := s.loose } :: s.done }
  | .directive d => { s with loose := d :: s.loose }
  | .fault _ _ => s

/-- The sections of a list of items: each header with the directives up to the next one. -/
def sectionsOf (items : List Item) : List Section := (items.foldr Sections.add {}).done

/-- The line and problem that an item reports. -/
def Item.fault? : Item → Option (Nat × Problem)
  | .fault line problem => some (line, problem)
  | _ => none

end Systemd

/-- A unit that has been read. -/
structure Systemd where
  sections : List Systemd.Section := []
  faults : List (Nat × Systemd.Problem) := []

namespace Systemd

/-- Reads a unit. -/
def ofLines (lines : List Text) : Systemd :=
  let found := items lines
  { sections := sectionsOf found, faults := found.filterMap Item.fault? }

/-- The sections of a given name. -/
def named (u : Systemd) (name : Text) : List Section := u.sections.filter (·.name = name)

/-- The problems of a unit as findings. -/
def findings (u : Systemd) : List Finding :=
  u.faults.map fun (line, problem) => { line, column := 1, message := problem.message }

end Systemd

end OpsLint
