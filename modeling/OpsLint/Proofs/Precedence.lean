import OpsLint.Proofs.Overrides
import OpsLint.Proofs.Validation

/-!
# Precedence of settings

Overrides come before the settings file, and the file comes before what is built in. For options
this is the whole story: what counts is the override, or else the value in the file, or else the
default (`decided`), and it is validated as such.

For a rule there are two things to be settled, and each goes its own way. Enabling beats disabling,
both beat the file, and a rule of which nothing is said is enabled. A severity that is given as null
is the default severity of the rule, and does not leave the question to the file. In the file a rule
can be set in two places of its section; the later one replaces the other entirely, so that a
mapping which only enables a rule makes it forget the severity that a word before it has set.

The statement is about the file as it was read and the overrides as they were made. Nothing in it
speaks of drafts, which are how `resolveSettings` gets there: the lemmas on drafts say what is in
them after the file was read (`Draft.ofValue`) and after the overrides were applied
(`Overrides.apply`), and validation decides each setting by what it finds there (`Draft.validate`).
-/

namespace OpsLint

/-- Settings that follow from a file and overrides, in this order of precedence: overrides, file,
defaults. -/
structure Settings.FollowFrom (settings : Settings) (registry : Registry) (file : Value)
    (overrides : Overrides) : Prop where
  /-- A rule is enabled or disabled by an override, or by what its section gives for it, or it is
  enabled. -/
  enables : ∀ r ∈ registry.rules,
    if r.id ∈ overrides.enable then settings.enables r = true
    else if r.id ∈ overrides.disable then settings.enables r = false
    else decided Value.toBool? true
        (((file.sectionFor r.kind).ruleAt? r.id).bind Value.enabling?)
      = some (settings.enables r)
  /-- The severity of a rule is that of an override, or what its section gives for it, or the
  default of the rule; the default also stands for null. -/
  severity : ∀ r ∈ registry.rules,
    (decided Value.toGrade? none
        (((overrides.severity? r.id).map severityWord).or
          (((file.sectionFor r.kind).ruleAt? r.id).bind Value.grading?))).map
        (fun grade => grade.getD r.severity)
      = some (settings.severity r)
  /-- An option is what an override gives for it, or its section, or the default. -/
  options : settings.options.DecidedBy fun kind name =>
    (overrides.option? kind name).or ((file.sectionFor kind).at? name)
  workers :
    decided (Value.toNatFrom? 1) 4
        ((Overrides.notNull overrides.workers).or (file.at? "workers"))
      = some settings.workers
  timeout :
    decided Value.toTimeout? (some 30)
        ((Overrides.notNull overrides.timeout).or (file.at? "timeout"))
      = some settings.timeout
  maxFileSize :
    decided (Value.toNatFrom? 1) 1048576
        ((Overrides.notNull overrides.maxFileSize).or (file.at? "max_file_size"))
      = some settings.maxFileSize

section

variable {registry : Registry} {file : Value} {overrides : Overrides} {source : Text}
variable {settings : Settings} {warnings : List ConfigWarning}

/-- Settings are what becomes of the file once it is read and overridden. -/
theorem validate_of_resolveSettings
    (h : resolveSettings registry file overrides source = .ok (settings, warnings)) :
    ∃ read, Draft.ofValue registry file = .ok read ∧
      (overrides.apply registry read.value).value.validate = .ok settings := by
  obtain ⟨read, hread, h⟩ := exists_ok_of_bind_ok h
  refine ⟨read, hread, ?_⟩
  dsimp only at h
  split at h
  · exact nomatch h
  · rename_i hvalidate
    cases h
    exact hvalidate

/-- **Overrides come before the file, and the file before the defaults.** A rule that has the name
of an option would take the option's place in the file, which is therefore excluded. -/
theorem followFrom_of_resolveSettings
    (hids : ∀ r ∈ registry.rules, r.id ∉ r.kind.optionNames)
    (h : resolveSettings registry file overrides source = .ok (settings, warnings)) :
    settings.FollowFrom registry file overrides := by
  obtain ⟨read, hread, hvalidate⟩ := validate_of_resolveSettings h
  obtain ⟨hworkers, htimeout, hmaxFileSize⟩ := Draft.decided_run hvalidate
  obtain ⟨hworkers', htimeout', hmaxFileSize'⟩ := overrides.run_apply registry read.value
  have hrun := (Draft.ofValue_spec hread).1
  refine ⟨fun r hr => ?_, fun r hr => ?_, ?_, ?_, ?_, ?_⟩
  · -- a rule that is both enabled and disabled was disabled first
    have henabled := (Draft.decided_rule hvalidate r).1
    rw [overrides.rule_apply read.value hr, (Draft.rule_ofValue hread hr).1] at henabled
    dsimp only at henabled
    split
    · rename_i henable
      rw [if_pos henable] at henabled
      exact (Option.some.inj henabled).symm
    · rename_i henable
      rw [if_neg henable] at henabled
      split
      · rename_i hdisable
        rw [if_pos hdisable] at henabled
        exact (Option.some.inj henabled).symm
      · rename_i hdisable
        rw [if_neg hdisable] at henabled
        exact henabled
  · have hseverity := (Draft.decided_rule hvalidate r).2
    rw [overrides.rule_apply read.value hr, (Draft.rule_ofValue hread hr).2] at hseverity
    rw [hseverity]
    rfl
  · refine Draft.decidedBy_options hvalidate fun kind name hname => ?_
    have hkind : ∀ r ∈ registry.forKind kind, r.id ∉ kind.optionNames := by
      intro r hr
      obtain ⟨hmem, hkind⟩ := List.mem_filter.1 hr
      rw [← of_decide_eq_true hkind]
      exact hids r hmem
    rw [overrides.option_apply registry read.value hname, Draft.option_ofValue hread hkind hname]
  · rw [← hrun _ (by decide), ← hworkers']
    exact hworkers
  · rw [← hrun _ (by decide), ← htimeout']
    exact htimeout
  · rw [← hrun _ (by decide), ← hmaxFileSize']
    exact hmaxFileSize

end

/-- A rule that is set twice in its section and overridden in one half only, an option that is
overridden, and one that is not. -/
theorem followFrom_of_resolveSettings_dockerfile :
    let file : Value := .map
      [(.str "dockerfile", .map
        [(.str "dockerfile-latest-tag", .bool false),
         (.str "rules", .map
           [(.str "dockerfile-latest-tag", .map [(.str "severity", .str "info")])]),
         (.str "require_user", .str "no"),
         (.str "allow_latest_tag", .bool true)]),
       (.str "workers", .int 2)]
    let overrides : Overrides :=
      { disable := ["dockerfile-latest-tag"]
        severities := [("dockerfile-root-user", .str " error ")]
        options := [("dockerfile", [("allow_latest_tag", .bool false)])] }
    ∃ settings warnings,
      resolveSettings .standard file overrides "ops.yaml" = .ok (settings, warnings) ∧
        settings.FollowFrom .standard file overrides := by
  intro file overrides
  have hids : ∀ r ∈ Registry.standard.rules, r.id ∉ r.kind.optionNames := by decide +kernel
  have hsome : (resolveSettings .standard file overrides "ops.yaml").toOption.isSome := by
    decide +kernel
  cases h : resolveSettings .standard file overrides "ops.yaml" with
  | error e =>
    rw [h] at hsome
    exact nomatch hsome
  | ok result =>
    obtain ⟨settings, warnings⟩ := result
    exact ⟨settings, warnings, rfl, followFrom_of_resolveSettings hids h⟩

end OpsLint
