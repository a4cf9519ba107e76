import OpsLint.Text.Basic

/-!
# Severity

How grave a finding is. Only an error makes a run fail; `rank` orders the three grades.
-/

namespace OpsLint

/-- How grave a finding is. -/
inductive Severity where
  | info
  | warning
  | error
deriving DecidableEq, Repr

namespace Severity

/-- All grades, from the lightest on. -/
def all : List Severity := [.info, .warning, .error]

/-- The word for a grade. -/
def name : Severity → Text
  | .info => "INFO"
  | .warning => "WARNING"
  | .error => "ERROR"

/-- The grade of a given name, in capitals. -/
def ofName? (s : Text) : Option Severity := all.find? (·.name = s)

/-- The place of a grade in their order. -/
def rank : Severity → Nat
  | .info => 0
  | .warning => 1
  | .error => 2

end Severity

end OpsLint
