import OpsLint.Severity

/-!
# Diagnostics

A **finding** is a message about a place in a file. It becomes a **diagnostic** when it is stamped
with the file, the rule that made it and a severity (`Finding.stamp`).

Diagnostics are listed by file, then by line, by column and by rule (`Diagnostic.le`). Two
diagnostics can agree in all four; their order is then the order in which they were made.
-/

namespace OpsLint

/-- A message about a place in a file. Lines and columns count from one; zero stands for the file or
the line as a whole. -/
structure Finding where
  line : Int
  column : Int := 0
  message : Text
deriving DecidableEq, Repr

/-- A finding with the file it is about, the rule that made it and its severity. -/
structure Diagnostic where
  severity : Severity
  path : Text
  line : Int
  column : Int
  ruleId : Text
  message : Text
deriving DecidableEq, Repr

/-- Makes a finding a diagnostic. -/
def Finding.stamp (f : Finding) (severity : Severity) (path ruleId : Text) : Diagnostic :=
  { severity, path, ruleId, line := f.line, column := f.column, message := f.message }

namespace Diagnostic

/-- A diagnostic about a file as a whole. -/
def aboutFile (severity : Severity) (path ruleId message : Text) : Diagnostic :=
  Finding.stamp { line := 0, message } severity path ruleId

/-- A diagnostic in one line: severity, place and message. -/
def format (d : Diagnostic) : Text :=
  "[" ++ d.severity.name ++ "] " ++ d.path ++ ":" ++ Text.ofInt d.line ++ ":" ++
    Text.ofInt d.column ++ ": " ++ d.message

/-- The order of two diagnostics by file, line, column and rule. -/
def order (a b : Diagnostic) : Ordering :=
  (compare a.path b.path).then <| (compare a.line b.line).then <|
    (compare a.column b.column).then (compare a.ruleId b.ruleId)

/-- `a` may be listed before `b`. -/
def le (a b : Diagnostic) : Bool := (order a b).isLE

end Diagnostic

end OpsLint
