import OpsLint.Decimal.Layout
import OpsLint.Files.Discover
import OpsLint.Files.Load
import OpsLint.Lint
import OpsLint.Pool
import OpsLint.Report

/-!
# Runs

A run discovers the files that its paths stand for and has each of them checked by itself. Every
target that is finished has one **outcome**: it is skipped if nothing says what kind of file it is,
fails if it cannot be loaded or read, and is checked otherwise. A target that is not finished when
the time is up fails.

The targets are finished in any order, as many at a time as there are workers. So what a run comes
to can depend on the **course** it takes, and `perform` is the run on some paths that takes a given
course. It does nothing with a course if there is no target.

A run waits until all targets are finished, but not longer than its time limit. It does not look at
the limit if all targets are finished when it is about to wait. Otherwise a limit that no clock can
measure makes it fail, and then there is no result. The failure comes out when the workers are done
with what they have taken up, which they may never be.
-/

namespace OpsLint

/-- Identifiers of the reports that a file could not be checked. -/
def loadErrorId : Text := "load-error"

def timeoutId : Text := "timeout"

def internalErrorId : Text := "internal-error"

/-- What a run works with. -/
structure Job where
  tree : FileTree
  settings : Settings := {}
  registry : Registry := .standard
  /-- Diagnostics about the settings. -/
  warnings : List Diagnostic := []
  /-- The targets, by their texts, that are never finished. -/
  slow : List Text := []

/-- What has become of a target. -/
inductive Outcome where
  | skipped
  | failed (ruleId message : Text)
  | checked (diagnostics : List Diagnostic)
deriving DecidableEq, Repr

namespace Outcome

/-- The outcome for a target that was not finished within the time limit. -/
def timedOut (limit : Float) : Outcome :=
  .failed timeoutId
    ("Run timed out after " ++ Decimal.generalText limit ++ "s before this file was checked")

/-- The report on a target with a given outcome, unless it was skipped. -/
def report? (outcome : Outcome) (p : Path) : Option FileReport :=
  match outcome with
  | .skipped => none
  | .failed ruleId message =>
    some {
      path := p.toText
      diagnostics := [.aboutFile .error p.toText ruleId message]
      failed := true }
  | .checked diagnostics => some { path := p.toText, diagnostics }

end Outcome

namespace Job

/-- Working on a target never ends. -/
def isSlow (job : Job) (p : Path) : Bool := job.slow.contains p.toText

/-- The outcome for a target that is finished. -/
def check (job : Job) (p : Path) : Outcome :=
  match job.tree.load p job.settings.maxFileSize with
  | .error e =>
    if p.kind?.isNone then .skipped
    else .failed loadErrorId ("Cannot load file: " ++ e.reason)
  | .ok lines =>
    match detect? p (some (textOfLines lines)) with
    | none => .skipped
    | some kind =>
      match lintLines job.settings job.registry p.toText (some kind) lines with
      | .ok diagnostics => .checked diagnostics
      | .error e => .failed internalErrorId ("Internal error while linting: " ++ e.message)

/-- The outcome for a target that is late or is not. A run without a time limit waits for all
targets, and none is late. -/
def outcome (job : Job) (late : Bool) (p : Path) : Outcome :=
  match late, job.settings.timeout with
  | true, some limit => .timedOut limit
  | _, _ => job.check p

/-- The report on a target, unless it was skipped. -/
def report? (job : Job) (late : Bool) (p : Path) : Option FileReport :=
  (job.outcome late p).report? p

/-- The result of collecting reports in the order in which they come. -/
def collect (job : Job) (reports : List FileReport) : LintResult :=
  (reports.foldl Collection.addReport (Collection.addGeneral {} job.warnings)).result

/-- The result of a run that has come to its end with some targets done and others pending. -/
def resultAt (job : Job) (done pending : List Path) : LintResult :=
  job.collect (done.filterMap (job.report? false) ++ pending.filterMap (job.report? true))

end Job

/-! ## Waiting -/

/-- Why a run has no result. -/
inductive RunError where
  /-- The time limit is longer than can be waited for. -/
  | limitTooLong
deriving DecidableEq, Repr

/-- The wording of a refusal. -/
def RunError.message : RunError → Text
  | .limitTooLong => "timestamp too large to convert to C _PyTime_t"

/-- A number of seconds can be waited for: a clock counts nanoseconds, up to 63 bits of them. -/
def canWait (seconds : Float) : Bool := seconds * 1000000000 < 9223372036854775808

namespace Job

/-- A run on some paths that takes a given course. -/
def perform (job : Job) (paths : List Path) (course : Course) : Except RunError LintResult :=
  if (job.tree.discover paths).isEmpty then .ok (job.collect [])
  else if course.first.unfinished.isEmpty || job.settings.timeout.all canWait then
    .ok (job.resultAt course.done course.pending)
  else .error .limitTooLong

/-- The course of a run that has to wait for every target and in which the targets are finished one
after another, in the order of their discovery. -/
def course (job : Job) (paths : List Path) : Course :=
  let targets := job.tree.discover paths
  let last := Pool.settle job.settings.workers job.isSlow targets [] []
  { first := .start targets, done := last.finished.reverse, pending := last.unfinished }

end Job

end OpsLint
