import OpsLint.Detect
import OpsLint.Rule.Registry
import OpsLint.Settings.Basic

/-!
# Checking a file

The diagnostics of a file are what its reader found to be wrong, and then, rule by rule in the order
of the registry, what the enabled rules for its kind have found. Each rule contributes **a block of
its own** (`ruleBlock`): its findings, stamped with the file, the rule and the severity that is set
for it, or a single diagnostic if it fails. A rule is told all three, and the options; it cannot see
or change the block of another.
-/

namespace OpsLint

/-- The identifier of what the readers report. -/
def parseErrorId : Text := "parse-error"

/-- The identifier of the report that a rule has failed. -/
def ruleErrorId : Text := "rule-error"

/-- What a rule is told when a file is checked. -/
def Settings.context (settings : Settings) (path : Text) (rule : Rule) : Rule.Context :=
  { ruleId := rule.id, path, severity := settings.severity rule, options := settings.options }

/-- The diagnostics of one rule. -/
def ruleBlock (settings : Settings) (path : Text) (model : Model) (rule : Rule) :
    List Diagnostic :=
  if settings.enables rule then
    match rule.check (settings.context path rule) model with
    | .ok findings => findings.map (settings.context path rule).report
    | .error failure =>
      [.aboutFile .error path ruleErrorId
        ("Rule '" ++ rule.id ++ "' failed: " ++ failure.message)]
  else []

/-- The diagnostics of a model. -/
def Model.diagnostics (model : Model) (settings : Settings) (registry : Registry) (path : Text) :
    List Diagnostic :=
  model.findings.map (·.stamp .error path parseErrorId) ++
    (registry.forKind model.kind).flatMap (ruleBlock settings path model)

/-- The diagnostics of the lines of a file of a given kind; there are none for a file of unknown
kind. -/
def lintLines (settings : Settings) (registry : Registry) (path : Text) (kind : Option FileKind)
    (lines : List Text) : Except Dockerfile.ReadError (List Diagnostic) :=
  match kind with
  | none => .ok []
  | some kind => (Model.ofLines kind lines).map (·.diagnostics settings registry path)

/-- The diagnostics of a text, as if it were the content of the file at a path. -/
def lintText (settings : Settings) (registry : Registry) (path text : Text) :
    Except Dockerfile.ReadError (List Diagnostic) :=
  lintLines settings registry path (detect? (Path.ofText path) (some text)) (Text.lines text)

end OpsLint
