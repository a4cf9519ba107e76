import OpsLint.Decimal.Read
import OpsLint.Settings.Basic
import OpsLint.Settings.Draft

/-!
# Validating settings

A draft becomes settings if every value in it suits its option. Values of other types are accepted
where they leave no doubt: `1` and `"yes"` for a truth value, `"8"` and `8.0` for a whole number.

Validation does not stop at the first value that does not suit. A `Checked` result holds a value and
all **issues** met on the way to it, in order; where there is an issue, the value is a stand-in that
is never used.
-/

namespace OpsLint

/-- What is wrong with a value. -/
inductive IssueKind where
  | boolType
  | boolParsing
  | intType
  | intParsing
  | intParsingSize
  | intFromFloat
  | finiteNumber
  | floatType
  | floatParsing
  | stringType
  | listType
  | noSeverity
  | greaterThan
  | greaterThanEqual
deriving DecidableEq, Repr

/-- A value that does not suit, and where it was given. -/
structure Issue where
  /-- The names that lead to the value, from the outermost on. -/
  location : List Text
  kind : IssueKind
deriving DecidableEq, Repr

/-! ## Single values -/

/-- The words for false. -/
def falseWords : List Text := ["0", "off", "f", "false", "n", "no"]

/-- The words for true. -/
def trueWords : List Text := ["1", "on", "t", "true", "y", "yes"]

/-- The truth value that a value stands for. -/
def Value.toBool : Value → Except IssueKind Bool
  | .bool b => .ok b
  | .int n => if n = 0 then .ok false else if n = 1 then .ok true else .error .boolParsing
  | .float x => if x == 0 then .ok false else if x == 1 then .ok true else .error .boolType
  | .str s =>
    let word := s.map Char.toLower
    if falseWords.contains word then .ok false
    else if trueWords.contains word then .ok true
    else .error .boolParsing
  | _ => .error .boolType

/-- The integer that a text stands for: digits with an optional sign before them and an optional
fraction of zeros after them. -/
def readInteger? (s : Text) : Option Int :=
  let (negative, body) := Decimal.readSign (Text.trim s)
  let (digits, rest) := Decimal.readDigits body
  let size := Decimal.digitsValue digits
  let wholeFraction : Bool := match rest with
    | [] => true
    | '.' :: zeros => !zeros.isEmpty && zeros.all (· = '0')
    | _ => false
  if digits.isEmpty || !wholeFraction then none
  else some (if negative then -(size : Int) else size)

/-- The integer that a value stands for. A number with a fraction, or one that is too large to have
been meant as an integer, stands for none. -/
def Value.toInteger : Value → Except IssueKind Int
  | .bool b => .ok (if b then 1 else 0)
  | .int n => .ok n
  | .float x =>
    if x.isNaN || x.isInf then .error .finiteNumber
    else match (Binary.ofFloat x).toInt? with
      | none => .error .intFromFloat
      | some n => if n.natAbs < Nat.pow 2 63 then .ok n else .error .intParsingSize
  | .str s =>
    if Numeral.digitLimit < s.length then .error .intParsingSize
    else match readInteger? s with
      | some n => .ok n
      | none => .error .intParsing
  | _ => .error .intType

/-- The number that a value stands for. -/
def Value.toNumber : Value → Except IssueKind Float
  | .bool b => .ok (if b then 1 else 0)
  | .int n => match Decimal.ofInt? n with
    | some x => .ok x
    | none => .error .floatType
  | .float x => .ok x
  | .str s => match Decimal.read? s with
    | some x => .ok x
    | none => .error .floatParsing
  | _ => .error .floatType

/-- An integer with a lower bound. -/
def Value.toNatFrom (least : Nat) (v : Value) : Except IssueKind Nat := do
  let n ← v.toInteger
  if n < least then throw .greaterThanEqual else return n.toNat

/-- A number that is not negative. -/
def Value.toNonnegative (v : Value) : Except IssueKind Float := do
  let x ← v.toNumber
  if x ≥ 0 then return x else throw .greaterThanEqual

/-- A positive number, or none at all. -/
def Value.toPositive? : Value → Except IssueKind (Option Float)
  | .null => .ok none
  | v => do
    let x ← v.toNumber
    if x > 0 then return some x else throw .greaterThan

/-- A severity, or none at all. -/
def Value.toSeverity? : Value → Except IssueKind (Option Severity)
  | .null => .ok none
  | .str s => match Severity.ofName? s with
    | some severity => .ok (some severity)
    | none => .error .noSeverity
  | _ => .error .noSeverity

/-! ## Results with issues -/

/-- A value and the issues met on the way to it. -/
structure Checked (α : Type) where
  value : α
  issues : List Issue := []

namespace Checked

instance : Monad Checked where
  pure a := { value := a }
  bind c f :=
    let d := f c.value
    { value := d.value, issues := c.issues ++ d.issues }

/-- The value given for an option, or its default. -/
def option {α : Type} (location : List Text) (read : Value → Except IssueKind α) (default : α)
    (given : Option Value) : Checked α :=
  match given with
  | none => { value := default }
  | some v =>
    match read v with
    | .ok a => { value := a }
    | .error kind => { value := default, issues := [{ location, kind }] }

/-- The items of a list that has to hold texts only. -/
def texts (location : List Text) (items : List Value) : Checked (List Text) :=
  { value := items.filterMap fun
      | .str s => some s
      | _ => none
    issues := items.zipIdx.filterMap fun
      | (.str _, _) => none
      | (_, i) => some { location := location ++ [Text.ofNat i], kind := .stringType } }

/-- The list of texts given for an option, or its default. -/
def textList (location : List Text) (default : List Text) (given : Option Value) :
    Checked (List Text) :=
  match given with
  | none => { value := default }
  | some (.list items) => texts location items
  | some _ => { value := default, issues := [{ location, kind := .listType }] }

end Checked

/-! ## Whole drafts -/

/-- What is set about a rule. -/
def RuleDraft.check (location : List Text) (d : RuleDraft) : Checked RuleSetting := do
  let enabled ← Checked.option (location ++ [("enabled" : Text)]) Value.toBool true d.enabled
  let severity ← Checked.option (location ++ [("severity" : Text)]) Value.toSeverity? none d.severity
  return { enabled, severity }

/-- What is set about the rules for a kind of file. -/
def SectionDraft.checkRules (kind : FileKind) (s : SectionDraft) :
    Checked (List (Text × RuleSetting)) :=
  s.rules.mapM fun (id, rule) => do
    let setting ← rule.check [kind.name, "rules", id]
    return (id, setting)

namespace SectionDraft

/-- A truth value given for an option of a section. -/
def bool (s : SectionDraft) (kind : FileKind) (name : Text) (default : Bool) : Checked Bool :=
  Checked.option [kind.name, name] Value.toBool default (s.option? name)

/-- A list of texts given for an option of a section. -/
def textList (s : SectionDraft) (kind : FileKind) (name : Text) (default : List Text) :
    Checked (List Text) :=
  Checked.textList [kind.name, name] default (s.option? name)

/-- The options for Dockerfiles. -/
def checkDockerfile (s : SectionDraft) (d : Dockerfile.Options) : Checked Dockerfile.Options := do
  let allowLatestTag ← s.bool .dockerfile "allow_latest_tag" d.allowLatestTag
  let requireUser ← s.bool .dockerfile "require_user" d.requireUser
  let requireHealthcheck ← s.bool .dockerfile "require_healthcheck" d.requireHealthcheck
  return { allowLatestTag, requireUser, requireHealthcheck }

/-- The options for makefiles. -/
def checkMakefile (s : SectionDraft) (d : Makefile.Options) : Checked Makefile.Options := do
  let requirePhony ← s.bool .makefile "require_phony" d.requirePhony
  return { requirePhony }

/-- The options for environment files. -/
def checkEnv (s : SectionDraft) (d : Env.Options) : Checked Env.Options := do
  let checkWeakPasswords ← s.bool .env "check_weak_passwords" d.checkWeakPasswords
  let allowedWeakPatterns ← s.textList .env "allowed_weak_patterns" d.allowedWeakPatterns
  let weakValues ← s.textList .env "weak_values" d.weakValues
  let secretKeyMarkers ← s.textList .env "secret_key_markers" d.secretKeyMarkers
  let minSecretLength ← Checked.option [FileKind.env.name, "min_secret_length"]
    (Value.toNatFrom 0) d.minSecretLength (s.option? "min_secret_length")
  let minSecretEntropy ← Checked.option [FileKind.env.name, "min_secret_entropy"]
    Value.toNonnegative d.minSecretEntropy (s.option? "min_secret_entropy")
  return {
    checkWeakPasswords, allowedWeakPatterns, weakValues, secretKeyMarkers, minSecretLength,
    minSecretEntropy }

/-- The options for crontabs. -/
def checkCrontab (s : SectionDraft) (d : Crontab.Options) : Checked Crontab.Options := do
  let allowEveryMinute ← s.bool .crontab "allow_every_minute" d.allowEveryMinute
  return { allowEveryMinute }

/-- The options for systemd units. -/
def checkSystemd (s : SectionDraft) (d : Systemd.Options) : Checked Systemd.Options := do
  let requireRestart ← s.bool .systemd "require_restart" d.requireRestart
  return { requireRestart }

end SectionDraft

namespace Draft

/-- The settings of a draft, on top of defaults. Within a section the rules are looked at before the
options. -/
def check (d : Draft) (base : Settings) : Checked Settings := do
  let workers ← Checked.option ["workers"] (Value.toNatFrom 1) base.workers
    (d.run? "workers")
  let timeout ← Checked.option ["timeout"] Value.toPositive? base.timeout (d.run? "timeout")
  let maxFileSize ← Checked.option ["max_file_size"] (Value.toNatFrom 1) base.maxFileSize
    (d.run? "max_file_size")
  let dockerfileRules ← (d.sections .dockerfile).checkRules .dockerfile
  let dockerfile ← (d.sections .dockerfile).checkDockerfile base.options.dockerfile
  let makefileRules ← (d.sections .makefile).checkRules .makefile
  let makefile ← (d.sections .makefile).checkMakefile base.options.makefile
  let envRules ← (d.sections .env).checkRules .env
  let env ← (d.sections .env).checkEnv base.options.env
  let crontabRules ← (d.sections .crontab).checkRules .crontab
  let crontab ← (d.sections .crontab).checkCrontab base.options.crontab
  let systemdRules ← (d.sections .systemd).checkRules .systemd
  let systemd ← (d.sections .systemd).checkSystemd base.options.systemd
  return {
    workers, timeout, maxFileSize
    options := { dockerfile, makefile, env, crontab, systemd }
    rules := fun
      | .dockerfile => dockerfileRules
      | .makefile => makefileRules
      | .env => envRules
      | .crontab => crontabRules
      | .systemd => systemdRules }

/-- The settings of a draft, or all its issues. -/
def validate (d : Draft) : Except (List Issue) Settings :=
  let checked := d.check {}
  if checked.issues.isEmpty then .ok checked.value else .error checked.issues

end Draft

end OpsLint
