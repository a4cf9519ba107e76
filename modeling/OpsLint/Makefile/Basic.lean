import OpsLint.Diagnostic
import OpsLint.Makefile.Line
import OpsLint.Makefile.Reference
import OpsLint.Reading

/-!
# Makefiles

A makefile is read as a sequence of rules. A rule is a line with the names of its targets and
prerequisites, and the recipe lines after it, which begin with a tab. Both sorts of lines are
continued by a backslash at their end. Assignments, definitions and directives are passed over and
end the rule before them; conditionals are passed over and do not.

While reading, three things are remembered: whether a rule is open, so that recipe lines have a
place; whether the last line is to be continued, and as what; and whether the lines of a definition
are being skipped. Reading yields **items** in the order of the lines, and the targets are the items
cut up at the rules (`targetsOf`): all targets of a rule share its prerequisites and its recipe.
-/

namespace OpsLint

namespace Makefile

/-- A line of a recipe. -/
structure RecipeLine where
  text : Text
  line : Nat
deriving DecidableEq, Repr

/-- A target with its prerequisites and recipe. -/
structure Target where
  name : Text
  line : Nat
  prerequisites : List Text := []
  recipe : List RecipeLine := []
  doubleColon : Bool := false
deriving DecidableEq, Repr

/-- What is wrong with a line. -/
inductive Problem where
  | strayRecipe
  | spacesForTab
  | noSeparator (text : Text)
deriving DecidableEq, Repr

/-- The wording of a problem. -/
def Problem.message : Problem → Text
  | .strayRecipe => "Recipe line found before any target"
  | .spacesForTab => "Recipe line must start with a tab, not spaces"
  | .noSeparator text => "Missing separator in '" ++ text ++ "'"

/-- What a line, with its continuations, is. -/
inductive Item where
  | rule (line : Nat) (rule : RuleLine)
  | recipe (line : Nat) (raw : Text)
  | phony (names : List Text)
  | fault (line : Nat) (problem : Problem)
deriving DecidableEq, Repr

/-- What the next line belongs to. -/
inductive Phase where
  /-- It begins something new. -/
  | fresh
  /-- It is skipped, unless it ends the definition. -/
  | definition
  /-- It continues a recipe line. -/
  | recipe
  /-- It continues a line that is not part of a recipe: the number of the first line, whether that
  was indented by spaces, and the text so far, its backslash included. -/
  | continued (first : Nat) (indented : Bool) (text : Text)
deriving DecidableEq, Repr

/-- What later lines depend on. -/
structure State where
  phase : Phase := .fresh
  /-- Recipe lines have a rule to belong to. -/
  inRule : Bool := false
deriving DecidableEq, Repr

/-- A line is continued by the next one. -/
def isContinued (s : Text) : Bool := Text.endsWith (Text.trimRight s) '\\'

/-- Reads a complete line that starts a rule. A special target declares its prerequisites phony or
means nothing here; neither it nor an assignment for some targets can have a recipe. -/
def readRule (line : Nat) (rule : RuleLine) : State × List Item :=
  if rule.names.any isSpecialName then
    ({}, if rule.names.contains ".PHONY" then [.phony rule.prerequisites] else [])
  else if rule.assigns then ({}, [])
  else ({ inRule := true }, [.rule line rule])

/-- Reads a complete line that is not part of a recipe. -/
def State.complete (st : State) (line : Nat) (indented : Bool) (text : Text) :
    State × List Item :=
  let body := Text.trim text
  if isConditional body then ({ st with phase := .fresh }, [])
  else if isDefine body then ({ phase := .definition }, [])
  else if isAssignment body || isDirective body then ({}, [])
  else match if indented then none else ruleLine? text with
    | some rule => readRule line rule
    | none => ({}, [.fault line (.noSeparator body)])

/-- Goes on with a line that is not part of a recipe and has been read as far as `text`. -/
def State.line (st : State) (first : Nat) (indented : Bool) (text : Text) : State × List Item :=
  if isContinued text then ({ st with phase := .continued first indented text }, [])
  else st.complete first indented text

/-- Reads a recipe line of an open rule. -/
def State.recipeLine (st : State) (line : Nat) (raw : Text) : State × List Item :=
  ({ st with phase := if isContinued raw then .recipe else .fresh }, [.recipe line raw])

/-- A trimmed line that is blank or a comment. -/
def isIgnored (body : Text) : Bool := body.isEmpty || body.head? = some '#'

/-- Reads a line that continues nothing. -/
def State.fresh (st : State) (line : Nat) (raw : Text) : State × List Item :=
  let body := Text.trim raw
  if raw.head? = some '\t' then
    if st.inRule then st.recipeLine line raw
    else (st, if isIgnored body then [] else [.fault line .strayRecipe])
  else if isIgnored body then (st, [])
  else
    let indented := raw.head? = some ' '
    if st.inRule && indented && !body.contains '=' && !isConditional body then
      (st, [.fault line .spacesForTab])
    else st.line line indented raw

/-- Reads one line. -/
def step : LineStep State Item := fun line raw st =>
  match st.phase with
  | .definition =>
    ({ st with phase := if Text.startsWith (Text.trim raw) "endef" then .fresh else .definition },
      [])
  | .recipe => st.recipeLine line raw
  | .continued first indented text =>
    st.line first indented ((Text.trimRight text).dropLast ++ " " ++ Text.trim raw)
  | .fresh => st.fresh line raw

/-- A line that is continued past the last one is taken as it stands. -/
def State.finish (st : State) : List Item :=
  match st.phase with
  | .continued first indented text => (st.complete first indented text).2
  | _ => []

/-- The items of a makefile, in the order of the lines. -/
def items (lines : List Text) : List Item :=
  let r := Reading.ofLines step {} lines
  r.items ++ r.state.finish

/-! ## Targets -/

/-- The targets of a list of items, read from its end: `loose` holds the recipe lines whose rule is
still to come. -/
structure Targets where
  done : List Target := []
  loose : List RecipeLine := []

/-- The recipe line on the same line as a rule. -/
def inlineRecipe (line : Nat) (rule : RuleLine) : List RecipeLine :=
  match rule.inline with
  | some (recipe, _) =>
    let text := Text.trim recipe
    if text.isEmpty then [] else [{ text, line }]
  | none => []

/-- Puts one item in front of the targets of those after it. -/
def Targets.add (item : Item) (t : Targets) : Targets :=
  match item with
  | .rule line rule =>
    { done := rule.names.map (fun name => {
        name, line
        prerequisites := rule.prerequisites
        recipe := inlineRecipe line rule ++ t.loose
        doubleColon := rule.doubleColon }) ++ t.done }
  | .recipe line raw => { t with loose := { text := Text.trim raw, line } :: t.loose }
  | .phony _ | .fault _ _ => t

/-- The targets of a list of items. -/
def targetsOf (items : List Item) : List Target := (items.foldr Targets.add {}).done

/-- The names that an item declares phony. -/
def Item.phonyNames : Item → List Text
  | .phony names => names
  | _ => []

/-- The references to variables in the recipe line that an item holds. -/
def Item.refs : Item → List VariableRef
  | .recipe line raw => variableRefs raw line 0
  | .rule line head =>
    match head.inline with
    | some (text, offset) =>
      if (Text.trim text).isEmpty then [] else variableRefs text line offset
    | none => []
  | _ => []

/-- The line and problem that an item reports. -/
def Item.fault? : Item → Option (Nat × Problem)
  | .fault line problem => some (line, problem)
  | _ => none

end Makefile

/-- A makefile that has been read. -/
structure Makefile where
  targets : List Makefile.Target := []
  /-- The names declared phony, as they were declared. -/
  phony : List Text := []
  refs : List Makefile.VariableRef := []
  faults : List (Nat × Makefile.Problem) := []

namespace Makefile

/-- Reads a makefile. -/
def ofLines (lines : List Text) : Makefile :=
  let found := items lines
  { targets := targetsOf found
    phony := found.flatMap Item.phonyNames
    refs := found.flatMap Item.refs
    faults := found.filterMap Item.fault? }

/-- The problems of a makefile as findings. -/
def findings (m : Makefile) : List Finding :=
  m.faults.map fun (line, problem) => { line, column := 1, message := problem.message }

end Makefile

end OpsLint
