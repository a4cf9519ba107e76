import OpsLint.FileKind
import OpsLint.Settings.Value

/-!
# Drafts of settings

A draft holds the values that have been given for options, sorted by where they belong and not yet
looked at. Every key in it is known; what is not known never gets into a draft. Later values replace
earlier ones.
-/

namespace OpsLint

/-- What has been given for a rule. -/
structure RuleDraft where
  enabled : Option Value := none
  severity : Option Value := none

/-- What has been given for a kind of file. -/
structure SectionDraft where
  options : List (Text × Value) := []
  /-- The rules, in the order in which they were first given. -/
  rules : List (Text × RuleDraft) := []

/-- What has been given for a run. -/
structure Draft where
  /-- Values that concern the run as a whole. -/
  run : List (Text × Value) := []
  sections : FileKind → SectionDraft := fun _ => {}

/-- The names of the options that concern the run as a whole. -/
def runKeys : List Text := ["workers", "timeout", "max_file_size"]

/-- The names of the options for a kind of file. -/
def FileKind.optionNames : FileKind → List Text
  | .dockerfile => ["allow_latest_tag", "require_user", "require_healthcheck"]
  | .makefile => ["require_phony"]
  | .env =>
    ["check_weak_passwords", "allowed_weak_patterns", "weak_values", "secret_key_markers",
     "min_secret_length", "min_secret_entropy"]
  | .crontab => ["allow_every_minute"]
  | .systemd => ["require_restart"]

namespace SectionDraft

/-- What has been given for an option. -/
def option? (s : SectionDraft) (name : Text) : Option Value := s.options.lookup name

/-- Gives a value for an option. -/
def putOption (s : SectionDraft) (name : Text) (value : Value) : SectionDraft :=
  { s with options := Assoc.put name value s.options }

/-- Replaces all that was given for a rule. -/
def putRule (s : SectionDraft) (id : Text) (rule : RuleDraft) : SectionDraft :=
  { s with rules := Assoc.put id rule s.rules }

/-- Changes what was given for a rule. -/
def modifyRule (s : SectionDraft) (id : Text) (f : RuleDraft → RuleDraft) : SectionDraft :=
  { s with rules := Assoc.modify id {} f s.rules }

end SectionDraft

namespace Draft

/-- What has been given for the run as a whole. -/
def run? (d : Draft) (key : Text) : Option Value := d.run.lookup key

/-- Gives a value that concerns the run as a whole. -/
def putRun (d : Draft) (key : Text) (value : Value) : Draft :=
  { d with run := Assoc.put key value d.run }

/-- Replaces all that was given for a kind of file. -/
def putSection (d : Draft) (kind : FileKind) (s : SectionDraft) : Draft :=
  { d with sections := fun k => if k = kind then s else d.sections k }

/-- Changes what was given for a kind of file. -/
def modifySection (d : Draft) (kind : FileKind) (f : SectionDraft → SectionDraft) : Draft :=
  d.putSection kind (f (d.sections kind))

end Draft

end OpsLint
