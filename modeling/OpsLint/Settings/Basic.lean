import OpsLint.Rule.Basic

/-!
# Settings

The settings of a run: how many files are worked on at a time, how long the run may take, how large
a file may be, the options of the rules, and for each rule whether it is enabled and which severity
its findings have. A rule without a setting is enabled and has its default severity.
-/

namespace OpsLint

/-- What is set about a rule. -/
structure RuleSetting where
  enabled : Bool := true
  /-- The severity of the findings, if not the default. -/
  severity : Option Severity := none
deriving DecidableEq, Repr

/-- The settings of a run. -/
structure Settings where
  /-- The number of files worked on at a time. -/
  workers : Nat := 4
  /-- The greatest length of a run in seconds, if there is one. -/
  timeout : Option Float := some 30
  /-- The greatest size of a file in bytes. -/
  maxFileSize : Nat := 1048576
  options : Options := {}
  /-- What is set about the rules for each kind of file. -/
  rules : FileKind → List (Text × RuleSetting) := fun _ => []

namespace Settings

/-- What is set about a rule. -/
def setting (s : Settings) (rule : Rule) : RuleSetting :=
  ((s.rules rule.kind).lookup rule.id).getD {}

/-- A rule is enabled. -/
def enables (s : Settings) (rule : Rule) : Bool := (s.setting rule).enabled

/-- The severity of the findings of a rule. -/
def severity (s : Settings) (rule : Rule) : Severity :=
  (s.setting rule).severity.getD rule.severity

end Settings

end OpsLint
