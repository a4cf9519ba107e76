import OpsLint.CommandLine.Command
import OpsLint.JsonValue
import OpsLint.Run
import OpsLint.Terminal

/-!
# Answers

A command is answered with lines or with JSON, an exit code, and a message if something went wrong.
The answer depends on the command line and the files alone.

Exit codes are those of the run for `lint` (`ExitStatus.code`), and that of a failed run if there
are no settings. The other commands always succeed.
-/

namespace OpsLint

/-- What is written as the result of a command. -/
inductive AnswerBody where
  | lines (lines : List Text)
  | json (value : JsonValue)

/-- The answer to a command. -/
structure Answer where
  exitCode : Nat := 0
  /-- The line that says what went wrong. -/
  failure : Option Text := none
  body : AnswerBody

/-- Why a command has no answer. -/
inductive AnswerError where
  | command (error : CommandError)
  /-- The settings cannot be loaded for a reason that is not about settings. -/
  | settings (error : SettingsFileError)
  | run (error : RunError)
deriving DecidableEq

/-- The line that says what went wrong. -/
def failureLine (message : Text) : Text := "✖ " ++ messageLine message

/-! ## Checking files -/

/-- A diagnostic as JSON. -/
def Diagnostic.toJson (d : Diagnostic) : JsonValue :=
  .object [("severity", .str d.severity.name), ("path", .str d.path), ("line", .int d.line),
    ("column", .int d.column), ("rule_id", .str d.ruleId), ("message", .str d.message)]

namespace LintResult

/-- A result as JSON. -/
def toJson (r : LintResult) : JsonValue :=
  .object [
    ("diagnostics", .list (r.diagnostics.map Diagnostic.toJson)),
    ("summary", .object [
      ("counts", .object (Severity.all.map fun s => (s.name, .int (r.count s)))),
      ("files_checked", .int r.filesChecked),
      ("files_failed", .int r.filesFailed),
      ("exit_code", .int r.status.code)])]

/-- The numbers below the diagnostics. -/
def summaryLines (r : LintResult) : List Text :=
  ["📋 Lint Summary",
   "Files checked: " ++ Text.ofNat r.filesChecked ++ " Failed: " ++ Text.ofNat r.filesFailed,
   "Errors: " ++ Text.ofNat (r.count .error) ++ " Warnings: " ++ Text.ofNat (r.count .warning) ++
     " Info: " ++ Text.ofNat (r.count .info)]

/-- What is said of a result that is no failure. -/
def closingLine (r : LintResult) : Text :=
  if r.diagnostics.isEmpty then "✔ No problems found."
  else "⚠ Only warnings and suggestions found."

/-- What is said of a failure. -/
def failure? (r : LintResult) : Option Text :=
  if r.status = .fatal then some (failureLine "No input could be checked.")
  else if r.hasErrors then some (failureLine "Errors found.")
  else none

/-- A result as lines. -/
def toAnswer (r : LintResult) : OutputFormat → Answer
  | .json => { exitCode := r.status.code, body := .json r.toJson }
  | .text =>
    { exitCode := r.status.code
      failure := r.failure?
      body := .lines (r.diagnostics.map (terminalLine ·.terminalText) ++ r.summaryLines ++
        (if r.failure?.isNone then [r.closingLine] else [])) }

end LintResult

/-- The number of values that do not suit their options, in words. -/
def issueCount (n : Nat) : Text :=
  Text.ofNat n ++ (if n = 1 then " validation error" else " validation errors") ++
    " for InfraLintSettings"

/-- What is said if there are no settings; nothing if the reason is not about settings. -/
def SettingsFileError.failure? (e : SettingsFileError) : Option Text :=
  match e with
  | .notText | .badScalar _ | .settings (.numeral _) => none
  | .settings (.invalid _ issues) => some (e.message ++ ": " ++ issueCount issues.length)
  | _ => some e.message

/-- The answer to `lint`. -/
def answerLint (t : FileTree) (paths : List Path) (settingsFile : Option Path)
    (format : OutputFormat) (overrides : Overrides) : Except AnswerError Answer :=
  match t.loadSettings .standard settingsFile {} overrides with
  | .ok loaded =>
    let job : Job :=
      { tree := t
        settings := loaded.settings
        warnings := loaded.warnings.map (·.diagnostic) }
    match job.perform paths (job.course paths) with
    | .ok result => .ok (result.toAnswer format)
    | .error e => .error (.run e)
  | .error e =>
    match e.failure? with
    | some message =>
      .ok {
        exitCode := ExitStatus.fatal.code
        failure := some (failureLine message)
        body := .lines [] }
    | none => .error (.settings e)

/-! ## Rules and kinds -/

/-- A rule as JSON. -/
def Rule.toJson (r : Rule) : JsonValue :=
  .object [("rule_id", .str r.id), ("file_type", .str r.kind.name),
    ("default_severity", .str r.severity.name), ("description", .str r.description)]

/-- A rule as a line. -/
def Rule.line (r : Rule) : Text :=
  Text.join " " [r.id, r.kind.name, r.severity.name, r.description]

/-- The lines above the rules. -/
def rulesHeading : List Text :=
  ["infralint", "Infrastructure", "📐 Registered Rules", "Rule File type Severity Description"]

/-- The answer to `rules`. -/
def answerRules (kind : Option (Option FileKind)) (format : OutputFormat) : Answer :=
  let rules : List Rule := match kind with
    | none => Registry.standard.rules
    | some kind => Registry.standard.forKindOrUnknown kind
  match format with
  | .json => { body := .json (.list (rules.map Rule.toJson)) }
  | .text => { body := .lines (rulesHeading ++ rules.map Rule.line) }

/-- The line on the kind of a file. -/
def kindLine (t : FileTree) (p : Path) : Text :=
  let defaults : Settings := {}
  terminalLine (p.toText ++ ": " ++ match t.load p defaults.maxFileSize with
    | .error e => "unreadable (" ++ e.reason ++ ")"
    | .ok lines => FileKind.nameOrUnknown (detect? p (some (textOfLines lines))))

/-- The answer to `detect`. -/
def answerDetect (t : FileTree) (paths : List Path) : Answer :=
  { body := .lines ((t.discover paths).map (kindLine t)) }

/-! ## The answer -/

/-- The answer to a command. -/
def Command.answer (t : FileTree) : Command → Except AnswerError Answer
  | .lint paths settingsFile format overrides => answerLint t paths settingsFile format overrides
  | .rules kind format => .ok (answerRules kind format)
  | .detect paths => .ok (answerDetect t paths)

/-- A command looks at files. -/
def Command.readsFiles : Command → Bool
  | .lint .. | .detect _ => true
  | .rules .. => false

/-- The answer to a command line. -/
def answer (t : FileTree) (args : List Text) : Except AnswerError Answer := do
  let command ← (Command.ofArgs args).mapError .command
  command.answer t

end OpsLint
