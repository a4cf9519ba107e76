import OpsLint.Proofs.Drafts

/-!
# Validated drafts

A draft that is validated without an issue has become settings, and every one of them is **decided**
by what the draft gives for it: it is the default if nothing is given, and else the value as it is
read (`decided`). That a value which cannot be read decides nothing is no restriction here, since it
would have been an issue.

Validation goes through the options one after another and collects issues. There are none in the end
if and only if there are none anywhere, as the issues of two steps are those of the first and then
those of the second; so each option can be looked at by itself.
-/

namespace OpsLint

/-- What is decided by a value that may have been given: the default if there is none, and else the
value as it is read, if it can be. -/
def decided {α : Type} (read : Value → Option α) (default : α) (given : Option Value) : Option α :=
  given.elim (some default) read

namespace Value

/-! The readers of single values, when it does not matter why a value cannot be read. -/

def toBool? (v : Value) : Option Bool := v.toBool.toOption

def toNatFrom? (least : Nat) (v : Value) : Option Nat := (v.toNatFrom least).toOption

def toNonnegative? (v : Value) : Option Float := v.toNonnegative.toOption

def toTimeout? (v : Value) : Option (Option Float) := v.toPositive?.toOption

def toGrade? (v : Value) : Option (Option Severity) := v.toSeverity?.toOption

/-- The texts that a list consists of. -/
def toTexts? : Value → Option (List Text)
  | .list items => items.mapM toText?
  | _ => none

end Value

namespace Checked

variable {α β : Type}

@[simp] theorem value_pure (a : α) : (pure a : Checked α).value = a := rfl

@[simp] theorem value_bind (c : Checked α) (f : α → Checked β) :
    (c >>= f).value = (f c.value).value := rfl

/-- Two steps in a row are without an issue if and only if both are. -/
theorem issues_bind_eq_nil {c : Checked α} {f : α → Checked β} :
    (c >>= f).issues = [] ↔ c.issues = [] ∧ (f c.value).issues = [] :=
  List.append_eq_nil_iff

instance : LawfulMonad Checked :=
  .mk' Checked
    (fun c => congrArg (Checked.mk c.value) (List.append_nil c.issues))
    (fun _ _ => rfl)
    (fun c f g => congrArg (Checked.mk (g (f c.value).value).value)
      (List.append_assoc c.issues (f c.value).issues (g (f c.value).value).issues))

/-- An option without an issue is decided by what is given for it. -/
theorem decided_option {location : List Text} {read : Value → Except IssueKind α} {default : α}
    {given : Option Value} (h : (option location read default given).issues = []) :
    decided (fun v => (read v).toOption) default given
      = some (option location read default given).value := by
  cases given with
  | none => rfl
  | some v =>
    unfold option at h ⊢
    unfold decided
    dsimp only [Option.elim_some] at h ⊢
    cases hread : read v with
    | ok a => rfl
    | error kind => rw [hread] at h; exact nomatch h

/-- A list without an issue consists of texts. -/
theorem mapM_toText?_of_texts {location : List Text} {items : List Value}
    (h : (texts location items).issues = []) :
    items.mapM Value.toText? = some (texts location items).value := by
  unfold texts at h ⊢
  dsimp only at h ⊢
  -- where an item stands shows only in the issue that it gives rise to
  generalize 0 = start at h
  induction items generalizing start with
  | nil => rfl
  | cons item items ih =>
    rw [List.zipIdx_cons, List.filterMap_cons] at h
    cases item with
    | str s =>
      rw [List.mapM_cons, ih (start + 1) h]
      rfl
    | _ => exact nomatch h

theorem decided_textList {location default : List Text} {given : Option Value}
    (h : (textList location default given).issues = []) :
    decided Value.toTexts? default given = some (textList location default given).value := by
  cases given with
  | none => rfl
  | some v =>
    cases v with
    | list items => exact mapM_toText?_of_texts h
    | _ => exact nomatch h

end Checked

/-! ## Rules -/

theorem RuleDraft.decided_check {location : List Text} {d : RuleDraft}
    (h : (d.check location).issues = []) :
    decided Value.toBool? true d.enabled = some (d.check location).value.enabled ∧
      decided Value.toGrade? none d.severity = some (d.check location).value.severity := by
  obtain ⟨henabled, h⟩ := Checked.issues_bind_eq_nil.1 h
  obtain ⟨hseverity, -⟩ := Checked.issues_bind_eq_nil.1 h
  exact ⟨Checked.decided_option henabled, Checked.decided_option hseverity⟩

/-- **What is set about a rule is decided by what is given for it**, also if that is nothing. -/
theorem SectionDraft.decided_checkRules {kind : FileKind} {s : SectionDraft}
    (h : (s.checkRules kind).issues = []) (id : Text) :
    decided Value.toBool? true ((s.rules.lookup id).getD {}).enabled
        = some (((s.checkRules kind).value.lookup id).getD {}).enabled ∧
      decided Value.toGrade? none ((s.rules.lookup id).getD {}).severity
        = some (((s.checkRules kind).value.lookup id).getD {}).severity := by
  unfold checkRules at h ⊢
  generalize s.rules = rules at h ⊢
  induction rules with
  | nil => exact ⟨rfl, rfl⟩
  | cons entry rules ih =>
    rw [List.mapM_cons] at h ⊢
    obtain ⟨hentry, h⟩ := Checked.issues_bind_eq_nil.1 h
    obtain ⟨hrest, -⟩ := Checked.issues_bind_eq_nil.1 h
    obtain ⟨hcheck, -⟩ := Checked.issues_bind_eq_nil.1 hentry
    rw [Checked.value_bind, Checked.value_bind, Checked.value_pure, List.lookup_cons,
      List.lookup_cons]
    cases hid : id == entry.1 with
    | true => exact RuleDraft.decided_check hcheck
    | false => exact ih hrest

/-! ## Options

For each kind of file, `DecidedBy given` says of its options that each of them is decided by what is
given under its name. -/

/-- The options for Dockerfiles, by what is given for them. -/
structure Dockerfile.Options.DecidedBy (given : Text → Option Value) (o : Dockerfile.Options) :
    Prop where
  allowLatestTag : decided Value.toBool? false (given "allow_latest_tag") = some o.allowLatestTag
  requireUser : decided Value.toBool? true (given "require_user") = some o.requireUser
  requireHealthcheck :
    decided Value.toBool? true (given "require_healthcheck") = some o.requireHealthcheck

/-- The options for makefiles, by what is given for them. -/
structure Makefile.Options.DecidedBy (given : Text → Option Value) (o : Makefile.Options) :
    Prop where
  requirePhony : decided Value.toBool? true (given "require_phony") = some o.requirePhony

/-- The options for environment files, by what is given for them. -/
structure Env.Options.DecidedBy (given : Text → Option Value) (o : Env.Options) : Prop where
  checkWeakPasswords :
    decided Value.toBool? true (given "check_weak_passwords") = some o.checkWeakPasswords
  allowedWeakPatterns :
    decided Value.toTexts? [] (given "allowed_weak_patterns") = some o.allowedWeakPatterns
  weakValues :
    decided Value.toTexts? ({} : Env.Options).weakValues (given "weak_values") = some o.weakValues
  secretKeyMarkers :
    decided Value.toTexts? ({} : Env.Options).secretKeyMarkers (given "secret_key_markers")
      = some o.secretKeyMarkers
  minSecretLength :
    decided (Value.toNatFrom? 0) 8 (given "min_secret_length") = some o.minSecretLength
  minSecretEntropy :
    decided Value.toNonnegative? 2.5 (given "min_secret_entropy") = some o.minSecretEntropy

/-- The options for crontabs, by what is given for them. -/
structure Crontab.Options.DecidedBy (given : Text → Option Value) (o : Crontab.Options) :
    Prop where
  allowEveryMinute :
    decided Value.toBool? false (given "allow_every_minute") = some o.allowEveryMinute

/-- The options for systemd units, by what is given for them. -/
structure Systemd.Options.DecidedBy (given : Text → Option Value) (o : Systemd.Options) :
    Prop where
  requireRestart : decided Value.toBool? true (given "require_restart") = some o.requireRestart

/-- **All options are decided by what is given for them.** -/
structure Options.DecidedBy (given : FileKind → Text → Option Value) (o : Options) : Prop where
  dockerfile : o.dockerfile.DecidedBy (given .dockerfile)
  makefile : o.makefile.DecidedBy (given .makefile)
  env : o.env.DecidedBy (given .env)
  crontab : o.crontab.DecidedBy (given .crontab)
  systemd : o.systemd.DecidedBy (given .systemd)

namespace SectionDraft

variable {s : SectionDraft} {given : Text → Option Value}

theorem decided_bool {kind : FileKind} {name : Text} {default : Bool}
    (h : (s.bool kind name default).issues = []) (hgiven : s.option? name = given name) :
    decided Value.toBool? default (given name) = some (s.bool kind name default).value :=
  hgiven ▸ Checked.decided_option h

theorem decided_textList {kind : FileKind} {name : Text} {default : List Text}
    (h : (s.textList kind name default).issues = []) (hgiven : s.option? name = given name) :
    decided Value.toTexts? default (given name) = some (s.textList kind name default).value :=
  hgiven ▸ Checked.decided_textList h

variable (s)

theorem decidedBy_checkDockerfile
    (hgiven : ∀ name ∈ FileKind.dockerfile.optionNames, s.option? name = given name)
    (h : (s.checkDockerfile {}).issues = []) : (s.checkDockerfile {}).value.DecidedBy given := by
  obtain ⟨h₁, h⟩ := Checked.issues_bind_eq_nil.1 h
  obtain ⟨h₂, h⟩ := Checked.issues_bind_eq_nil.1 h
  obtain ⟨h₃, -⟩ := Checked.issues_bind_eq_nil.1 h
  exact ⟨decided_bool h₁ (hgiven _ (by decide)), decided_bool h₂ (hgiven _ (by decide)),
    decided_bool h₃ (hgiven _ (by decide))⟩

theorem decidedBy_checkMakefile
    (hgiven : ∀ name ∈ FileKind.makefile.optionNames, s.option? name = given name)
    (h : (s.checkMakefile {}).issues = []) : (s.checkMakefile {}).value.DecidedBy given := by
  obtain ⟨h₁, -⟩ := Checked.issues_bind_eq_nil.1 h
  exact ⟨decided_bool h₁ (hgiven _ (by decide))⟩

theorem decidedBy_checkEnv
    (hgiven : ∀ name ∈ FileKind.env.optionNames, s.option? name = given name)
    (h : (s.checkEnv {}).issues = []) : (s.checkEnv {}).value.DecidedBy given := by
  obtain ⟨h₁, h⟩ := Checked.issues_bind_eq_nil.1 h
  obtain ⟨h₂, h⟩ := Checked.issues_bind_eq_nil.1 h
  obtain ⟨h₃, h⟩ := Checked.issues_bind_eq_nil.1 h
  obtain ⟨h₄, h⟩ := Checked.issues_bind_eq_nil.1 h
  obtain ⟨h₅, h⟩ := Checked.issues_bind_eq_nil.1 h
  obtain ⟨h₆, -⟩ := Checked.issues_bind_eq_nil.1 h
  exact ⟨decided_bool h₁ (hgiven _ (by decide)), decided_textList h₂ (hgiven _ (by decide)),
    decided_textList h₃ (hgiven _ (by decide)), decided_textList h₄ (hgiven _ (by decide)),
    hgiven "min_secret_length" (by decide) ▸ Checked.decided_option h₅,
    hgiven "min_secret_entropy" (by decide) ▸ Checked.decided_option h₆⟩

theorem decidedBy_checkCrontab
    (hgiven : ∀ name ∈ FileKind.crontab.optionNames, s.option? name = given name)
    (h : (s.checkCrontab {}).issues = []) : (s.checkCrontab {}).value.DecidedBy given := by
  obtain ⟨h₁, -⟩ := Checked.issues_bind_eq_nil.1 h
  exact ⟨decided_bool h₁ (hgiven _ (by decide))⟩

theorem decidedBy_checkSystemd
    (hgiven : ∀ name ∈ FileKind.systemd.optionNames, s.option? name = given name)
    (h : (s.checkSystemd {}).issues = []) : (s.checkSystemd {}).value.DecidedBy given := by
  obtain ⟨h₁, -⟩ := Checked.issues_bind_eq_nil.1 h
  exact ⟨decided_bool h₁ (hgiven _ (by decide))⟩

end SectionDraft

/-! ## Whole drafts -/

namespace Draft

/-- A draft no part of which has an issue. -/
structure Clean (d : Draft) : Prop where
  workers : (Checked.option ["workers"] (Value.toNatFrom 1) 4 (d.run? "workers")).issues = []
  timeout : (Checked.option ["timeout"] Value.toPositive? (some 30) (d.run? "timeout")).issues = []
  maxFileSize :
    (Checked.option ["max_file_size"] (Value.toNatFrom 1) 1048576
      (d.run? "max_file_size")).issues = []
  rules : ∀ kind, ((d.sections kind).checkRules kind).issues = []
  dockerfile : ((d.sections .dockerfile).checkDockerfile {}).issues = []
  makefile : ((d.sections .makefile).checkMakefile {}).issues = []
  env : ((d.sections .env).checkEnv {}).issues = []
  crontab : ((d.sections .crontab).checkCrontab {}).issues = []
  systemd : ((d.sections .systemd).checkSystemd {}).issues = []

/-- The issues of a draft are those of its parts. -/
theorem clean_of_issues_check {d : Draft} (h : (d.check {}).issues = []) : d.Clean := by
  obtain ⟨hworkers, h⟩ := Checked.issues_bind_eq_nil.1 h
  obtain ⟨htimeout, h⟩ := Checked.issues_bind_eq_nil.1 h
  obtain ⟨hmaxFileSize, h⟩ := Checked.issues_bind_eq_nil.1 h
  obtain ⟨hdockerfileRules, h⟩ := Checked.issues_bind_eq_nil.1 h
  obtain ⟨hdockerfile, h⟩ := Checked.issues_bind_eq_nil.1 h
  obtain ⟨hmakefileRules, h⟩ := Checked.issues_bind_eq_nil.1 h
  obtain ⟨hmakefile, h⟩ := Checked.issues_bind_eq_nil.1 h
  obtain ⟨henvRules, h⟩ := Checked.issues_bind_eq_nil.1 h
  obtain ⟨henv, h⟩ := Checked.issues_bind_eq_nil.1 h
  obtain ⟨hcrontabRules, h⟩ := Checked.issues_bind_eq_nil.1 h
  obtain ⟨hcrontab, h⟩ := Checked.issues_bind_eq_nil.1 h
  obtain ⟨hsystemdRules, h⟩ := Checked.issues_bind_eq_nil.1 h
  obtain ⟨hsystemd, -⟩ := Checked.issues_bind_eq_nil.1 h
  refine ⟨hworkers, htimeout, hmaxFileSize, fun kind => ?_, hdockerfile, hmakefile, henv, hcrontab,
    hsystemd⟩
  cases kind with
  | dockerfile => exact hdockerfileRules
  | makefile => exact hmakefileRules
  | env => exact henvRules
  | crontab => exact hcrontabRules
  | systemd => exact hsystemdRules

section

variable {d : Draft} {s : Settings}

theorem clean_of_validate (h : d.validate = .ok s) : d.Clean ∧ s = (d.check {}).value := by
  unfold validate at h
  dsimp only at h
  split at h
  · rename_i hissues
    exact ⟨clean_of_issues_check (List.isEmpty_iff.1 hissues), (Except.ok.inj h).symm⟩
  · exact nomatch h

/-- **What is set about a rule is decided by what is given for it.** -/
theorem decided_rule (h : d.validate = .ok s) (r : Rule) :
    decided Value.toBool? true (d.rule r).enabled = some (s.setting r).enabled ∧
      decided Value.toGrade? none (d.rule r).severity = some (s.setting r).severity := by
  obtain ⟨hclean, rfl⟩ := clean_of_validate h
  have hrules : (d.check {}).value.rules r.kind
      = ((d.sections r.kind).checkRules r.kind).value := by
    cases r.kind <;> rfl
  unfold Settings.setting
  rw [hrules]
  exact SectionDraft.decided_checkRules (hclean.rules r.kind) r.id

theorem options_check (d : Draft) :
    (d.check {}).value.options
      = { dockerfile := ((d.sections .dockerfile).checkDockerfile {}).value
          makefile := ((d.sections .makefile).checkMakefile {}).value
          env := ((d.sections .env).checkEnv {}).value
          crontab := ((d.sections .crontab).checkCrontab {}).value
          systemd := ((d.sections .systemd).checkSystemd {}).value } := rfl

/-- **All options are decided by what is given for them.** -/
theorem decidedBy_options (h : d.validate = .ok s) {given : FileKind → Text → Option Value}
    (hgiven : ∀ kind : FileKind, ∀ name ∈ kind.optionNames,
      (d.sections kind).option? name = given kind name) : s.options.DecidedBy given := by
  obtain ⟨hclean, rfl⟩ := clean_of_validate h
  rw [options_check]
  exact {
    dockerfile :=
      (d.sections .dockerfile).decidedBy_checkDockerfile (hgiven .dockerfile) hclean.dockerfile
    makefile := (d.sections .makefile).decidedBy_checkMakefile (hgiven .makefile) hclean.makefile
    env := (d.sections .env).decidedBy_checkEnv (hgiven .env) hclean.env
    crontab := (d.sections .crontab).decidedBy_checkCrontab (hgiven .crontab) hclean.crontab
    systemd := (d.sections .systemd).decidedBy_checkSystemd (hgiven .systemd) hclean.systemd }

/-- **What concerns the run as a whole is decided by what is given for it.** -/
theorem decided_run (h : d.validate = .ok s) :
    decided (Value.toNatFrom? 1) 4 (d.run? "workers") = some s.workers ∧
      decided Value.toTimeout? (some 30) (d.run? "timeout") = some s.timeout ∧
      decided (Value.toNatFrom? 1) 1048576 (d.run? "max_file_size") = some s.maxFileSize := by
  obtain ⟨hclean, rfl⟩ := clean_of_validate h
  exact ⟨Checked.decided_option hclean.workers, Checked.decided_option hclean.timeout,
    Checked.decided_option hclean.maxFileSize⟩

end

end Draft

end OpsLint
