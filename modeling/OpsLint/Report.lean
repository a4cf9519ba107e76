import OpsLint.Diagnostic

/-!
# Reports

A run **collects** reports on files, in whatever order they arrive, and diagnostics about the run as
a whole. The result lists all diagnostics in their order, those about the run first among equals and
then by file; it counts them by severity, and counts the files that were checked and those that
failed.

The run fails as a whole if some file failed and none could be checked, and has found errors if some
file that was checked has one. Errors about files that failed do not count as found.
-/

namespace OpsLint

/-- What has become of one file. -/
structure FileReport where
  path : Text
  diagnostics : List Diagnostic := []
  /-- The file could not be checked. -/
  failed : Bool := false
deriving DecidableEq, Repr

/-- A report may be listed before another: reports are in order of their paths. -/
def FileReport.le (a b : FileReport) : Bool := Text.le a.path b.path

/-- How a run ends. -/
inductive ExitStatus where
  | clean
  | errors
  | fatal
deriving DecidableEq, Repr

/-- The number that stands for the end of a run. -/
def ExitStatus.code : ExitStatus → Nat
  | .clean => 0
  | .errors => 1
  | .fatal => 2

/-- Numbers of diagnostics, by severity. -/
structure Counts where
  info : Nat := 0
  warning : Nat := 0
  error : Nat := 0
deriving DecidableEq, Repr

namespace Counts

/-- The number for a severity. -/
def get (c : Counts) : Severity → Nat
  | .info => c.info
  | .warning => c.warning
  | .error => c.error

/-- Counts one more diagnostic of a severity. -/
def add (c : Counts) : Severity → Counts
  | .info => { c with info := c.info + 1 }
  | .warning => { c with warning := c.warning + 1 }
  | .error => { c with error := c.error + 1 }

/-- Counts diagnostics one by one. -/
def ofDiagnostics (ds : List Diagnostic) : Counts := ds.foldl (fun c d => c.add d.severity) {}

theorem get_add (c : Counts) (severity severity' : Severity) :
    (c.add severity).get severity' = c.get severity' + if severity = severity' then 1 else 0 := by
  cases severity <;> cases severity' <;> rfl

theorem get_foldl_add (c : Counts) (ds : List Diagnostic) (severity : Severity) :
    (ds.foldl (fun c d => c.add d.severity) c).get severity
      = c.get severity + ds.countP (·.severity = severity) := by
  induction ds generalizing c with
  | nil => rfl
  | cons d ds ih =>
    rw [List.foldl_cons, ih, get_add, List.countP_cons, Nat.add_assoc, Nat.add_comm (ite _ _ _)]
    simp only [decide_eq_true_eq]

/-- Each severity is counted as often as it occurs. -/
theorem get_ofDiagnostics (ds : List Diagnostic) (severity : Severity) :
    (ofDiagnostics ds).get severity = ds.countP (·.severity = severity) := by
  rw [ofDiagnostics, get_foldl_add]
  cases severity <;> exact Nat.zero_add _

end Counts

/-- The outcome of a run. -/
structure LintResult where
  diagnostics : List Diagnostic
  counts : Counts
  filesChecked : Nat
  filesFailed : Nat
  status : ExitStatus
deriving DecidableEq, Repr

namespace LintResult

/-- The number of diagnostics of a severity. -/
def count (r : LintResult) (severity : Severity) : Nat := r.counts.get severity

/-- An error has been counted. -/
def hasErrors (r : LintResult) : Bool := 0 < r.count .error

end LintResult

/-- What a run has collected so far. -/
structure Collection where
  reports : List FileReport := []
  /-- Diagnostics about the run as a whole. -/
  general : List Diagnostic := []

namespace Collection

/-- Adds a report on a file. -/
def addReport (c : Collection) (r : FileReport) : Collection :=
  { c with reports := c.reports ++ [r] }

/-- Adds diagnostics about the run as a whole. -/
def addGeneral (c : Collection) (ds : List Diagnostic) : Collection :=
  { c with general := c.general ++ ds }

/-- The reports in order of their paths. -/
def sortedReports (c : Collection) : List FileReport :=
  c.reports.mergeSort FileReport.le

/-- How a run ends, given the reports on files that were checked and the number of those that
failed. -/
def statusOf (checked : List FileReport) (failed : Nat) : ExitStatus :=
  if failed ≠ 0 && checked.isEmpty then .fatal
  else if checked.any fun r => r.diagnostics.any (·.severity = .error) then .errors
  else .clean

/-- The result of a run. -/
def result (c : Collection) : LintResult :=
  let reports := c.sortedReports
  let diagnostics :=
    (c.general ++ reports.flatMap FileReport.diagnostics).mergeSort Diagnostic.le
  let checked := reports.filter (!·.failed)
  let failed := reports.length - checked.length
  { diagnostics
    counts := .ofDiagnostics diagnostics
    filesChecked := checked.length
    filesFailed := failed
    status := statusOf checked failed }

end Collection

end OpsLint
