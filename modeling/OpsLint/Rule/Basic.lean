import OpsLint.Crontab.Rules
import OpsLint.Dockerfile.Rules
import OpsLint.Env.Rules
import OpsLint.Makefile.Rules
import OpsLint.Model
import OpsLint.Systemd.Rules

/-!
# Rules

A rule looks at the model of a file and makes findings. It applies to one kind of file and has a
default severity. Besides the model it is given a **context**: the options, and what its findings
are to be stamped with.

A rule can **fail**, and then it makes no finding at all. The rules of this library fail only on
numerals that are too long to be converted; a rule that is added to them may fail for any reason it
cares to give.
-/

namespace OpsLint

/-- What can be set about the contents of files, kind by kind. -/
structure Options where
  dockerfile : Dockerfile.Options := {}
  makefile : Makefile.Options := {}
  env : Env.Options := {}
  crontab : Crontab.Options := {}
  systemd : Systemd.Options := {}

namespace Rule

/-- Why a rule failed. -/
inductive Failure where
  | numeral (error : Numeral.Error)
  | other (reason : Text)
deriving DecidableEq

/-- The wording of a failure. -/
def Failure.message : Failure → Text
  | .numeral error => error.message
  | .other reason => reason

/-- What a rule may read besides the model. -/
structure Context where
  ruleId : Text
  path : Text
  /-- The severity that is set for the rule. -/
  severity : Severity
  options : Options := {}

/-- Makes a finding of the rule a diagnostic. -/
def Context.report (context : Context) (f : Finding) : Diagnostic :=
  f.stamp context.severity context.path context.ruleId

/-- What a rule does. -/
abbrev Check := Context → Model → Except Failure (List Finding)

end Rule

/-- A rule. -/
structure Rule where
  id : Text
  kind : FileKind
  severity : Severity
  description : Text
  check : Rule.Check

namespace Rule

/-- A check of Dockerfiles, which finds nothing in other files. -/
def Check.dockerfile (f : Dockerfile.Options → Dockerfile → List Finding) : Check
  | context, .dockerfile d => .ok (f context.options.dockerfile d)
  | _, _ => .ok []

/-- A check of makefiles. -/
def Check.makefile (f : Makefile.Options → Makefile → List Finding) : Check
  | context, .makefile m => .ok (f context.options.makefile m)
  | _, _ => .ok []

/-- A check of environment files, which may fail. -/
def Check.env (f : Env.Options → Env → Except Numeral.Error (List Finding)) : Check
  | context, .env e => (f context.options.env e).mapError .numeral
  | _, _ => .ok []

/-- A check of crontabs, which may fail. -/
def Check.crontab (f : Crontab.Options → Crontab → Except Numeral.Error (List Finding)) : Check
  | context, .crontab c => (f context.options.crontab c).mapError .numeral
  | _, _ => .ok []

/-- A check of systemd units. -/
def Check.systemd (f : Systemd.Options → Systemd → List Finding) : Check
  | context, .systemd u => .ok (f context.options.systemd u)
  | _, _ => .ok []

/-- The rules of this library. -/
def standard : List Rule :=
  [{ id := "dockerfile-latest-tag"
     kind := .dockerfile
     severity := .warning
     description := "Base images must be pinned to a version instead of 'latest' or no tag."
     check := .dockerfile Dockerfile.unpinnedImages },
   { id := "dockerfile-missing-user"
     kind := .dockerfile
     severity := .warning
     description := "Containers should switch to a non-root USER."
     check := .dockerfile Dockerfile.missingUser },
   { id := "dockerfile-missing-healthcheck"
     kind := .dockerfile
     severity := .info
     description := "Service images should declare a HEALTHCHECK."
     check := .dockerfile Dockerfile.missingHealthcheck },
   { id := "dockerfile-root-user"
     kind := .dockerfile
     severity := .warning
     description := "The last USER instruction should not switch back to root."
     check := .dockerfile fun _ => Dockerfile.rootUser },
   { id := "makefile-missing-phony"
     kind := .makefile
     severity := .info
     description := "Targets that do not produce a file should be declared .PHONY."
     check := .makefile Makefile.missingPhony },
   { id := "makefile-duplicate-target"
     kind := .makefile
     severity := .error
     description := "A target name should be defined only once."
     check := .makefile fun _ => Makefile.duplicateTargets },
   { id := "makefile-unquoted-variable"
     kind := .makefile
     severity := .warning
     description := "Variables passed to rm in a recipe should be quoted."
     check := .makefile fun _ => Makefile.unquotedVariables },
   { id := "env-weak-value"
     kind := .env
     severity := .error
     description := "Password, secret and token values must not be trivially guessable."
     check := .env Env.weakValues },
   { id := "env-duplicate-key"
     kind := .env
     severity := .error
     description := "A key should be assigned only once."
     check := .env fun _ e => .ok e.duplicateKeys },
   { id := "env-malformed-spacing"
     kind := .env
     severity := .warning
     description := "Assignments must not have whitespace around '='."
     check := .env fun _ e => .ok e.spacing },
   { id := "crontab-invalid-field"
     kind := .crontab
     severity := .error
     description := "Schedule fields must be within their allowed ranges."
     check := .crontab fun _ => Crontab.invalidFields },
   { id := "crontab-every-minute"
     kind := .crontab
     severity := .warning
     description := "Jobs scheduled every minute are usually a mistake."
     check := .crontab fun options c => .ok (Crontab.everyMinute options c) },
   { id := "systemd-missing-restart"
     kind := .systemd
     severity := .warning
     description := "Long-running services should declare a Restart= policy."
     check := .systemd Systemd.missingRestart },
   { id := "systemd-missing-description"
     kind := .systemd
     severity := .info
     description := "Units should carry a Description= in their [Unit] section."
     check := .systemd fun _ => Systemd.missingDescription },
   { id := "systemd-relative-exec"
     kind := .systemd
     severity := .warning
     description := "Exec*= commands should use absolute executable paths."
     check := .systemd fun _ => Systemd.relativeCommands }]

end Rule

end OpsLint
