import OpsLint.Proofs.Aggregation
import OpsLint.Proofs.Courses

/-!
# Severities are cosmetic

Two settings may differ in nothing but the severities of rules (`Settings.SameButSeverities`). Then
whatever is run with them comes to the same, up to the severities: the same files are checked and
fail, and the diagnostics are the same **place by place**. A rule is told its severity, but no rule
of this library asks for it (`Rule.ignoresSeverity_standard`); it is put on findings when they are
made diagnostics, and nobody looks at it before the run ends.

Two diagnostics at the same place are therefore either the same or one finding of one rule, stamped
with the two severities of this rule (`Diagnostic.Regraded`). What readers and failures report is no
finding of a rule, and is the same in all respects.

At the end the status is derived from severities. It is monotone in them: whether a run fails as a
whole depends on the files only, and an error stays an error when severities grow. It is not
monotone in the reports, which is why the relation between reports says that the same files failed.
-/

namespace OpsLint

/-- Settings that differ at most in the severities of the rules of a registry. -/
structure Settings.SameButSeverities (registry : Registry) (s s' : Settings) : Prop where
  workers : s.workers = s'.workers
  timeout : s.timeout = s'.timeout
  maxFileSize : s.maxFileSize = s'.maxFileSize
  options : s.options = s'.options
  enables : ∀ rule ∈ registry.rules, s.enables rule = s'.enables rule

/-- Diagnostics that differ at most in their severities. -/
structure Diagnostic.SameFinding (d d' : Diagnostic) : Prop where
  path : d.path = d'.path
  line : d.line = d'.line
  column : d.column = d'.column
  ruleId : d.ruleId = d'.ruleId
  message : d.message = d'.message

/-- What can stand at one place of the results under two settings: the same diagnostic, or one
finding of one rule with the severities of this rule. -/
inductive Diagnostic.Regraded (registry : Registry) (s s' : Settings) :
    Diagnostic → Diagnostic → Prop
  | same (d : Diagnostic) : Regraded registry s s' d d
  | finding (f : Finding) (path : Text) (rule : Rule) (hrule : rule ∈ registry.rules) :
      Regraded registry s s' (f.stamp (s.severity rule) path rule.id)
        (f.stamp (s'.severity rule) path rule.id)

namespace Diagnostic.Regraded

variable {registry : Registry} {s s' : Settings} {d d' : Diagnostic}

theorem sameFinding (h : Regraded registry s s' d d') : d.SameFinding d' := by
  cases h with
  | same => exact ⟨rfl, rfl, rfl, rfl, rfl⟩
  | finding => exact ⟨rfl, rfl, rfl, rfl, rfl⟩

/-- A diagnostic that is under no rule of the registry is the same. -/
theorem eq_of_not_rule (h : Regraded registry s s' d d')
    (hid : d.ruleId ∉ registry.rules.map Rule.id) : d = d' := by
  cases h with
  | same => rfl
  | finding f path rule hrule => exact absurd (List.mem_map_of_mem hrule) hid

/-- Severities of diagnostics grow with those of the rules. -/
theorem rank_le (h : Regraded registry s s' d d')
    (hrank : ∀ rule ∈ registry.rules, (s.severity rule).rank ≤ (s'.severity rule).rank) :
    d.severity.rank ≤ d'.severity.rank := by
  cases h with
  | same => exact Nat.le_refl _
  | finding f path rule hrule => exact hrank rule hrule

/-- The order of diagnostics does not see severities. -/
theorem le_eq {e e' : Diagnostic} (h : Regraded registry s s' d d')
    (h' : Regraded registry s s' e e') : le d e = le d' e' := by
  unfold le order
  rw [h.sameFinding.path, h.sameFinding.line, h.sameFinding.column, h.sameFinding.ruleId,
    h'.sameFinding.path, h'.sameFinding.line, h'.sameFinding.column, h'.sameFinding.ruleId]

end Diagnostic.Regraded

/-! ## Rules -/

/-- What a rule finds does not depend on its severity. -/
def Rule.IgnoresSeverity (rule : Rule) : Prop :=
  ∀ context severity model, rule.check { context with severity } model = rule.check context model

/-- **No rule of this library looks at its severity.** -/
theorem Rule.ignoresSeverity_standard : ∀ rule ∈ Rule.standard, rule.IgnoresSeverity := by
  unfold Rule.standard
  simp only [List.forall_mem_cons]
  -- rules of all sorts read the options of their kind, and nothing else of the context
  refine ⟨?_, ?_, ?_, ?_, ?_, ?_, ?_, ?_, ?_, ?_, ?_, ?_, ?_, ?_, ?_, fun _ h => nomatch h⟩
  all_goals
    intro context severity model
    cases model <;> rfl

/-! ## Files -/

section

variable {registry : Registry} {s s' : Settings} (h : s.SameButSeverities registry s')
variable (hignores : ∀ rule ∈ registry.rules, rule.IgnoresSeverity)

include h hignores

/-- A rule makes the same findings. -/
theorem forall₂_ruleBlock {rule : Rule} (hrule : rule ∈ registry.rules) (path : Text)
    (model : Model) :
    List.Forall₂ (Diagnostic.Regraded registry s s') (ruleBlock s path model rule)
      (ruleBlock s' path model rule) := by
  have hcheck : rule.check (s.context path rule) model = rule.check (s'.context path rule) model :=
    calc rule.check (s.context path rule) model
        = rule.check { s.context path rule with severity := s'.severity rule } model :=
          (hignores rule hrule _ _ _).symm
      _ = rule.check (s'.context path rule) model := by
          unfold Settings.context
          rw [h.options]
  unfold ruleBlock
  rw [h.enables rule hrule, hcheck]
  split
  · split
    · rename_i findings _
      rw [List.forall₂_map_left_iff, List.forall₂_map_right_iff, List.forall₂_same]
      exact fun f _ => .finding f path rule hrule
    · exact .cons (.same _) .nil
  · exact .nil

/-- What is found in a file is the same, rule by rule. -/
theorem Model.forall₂_diagnostics (model : Model) (path : Text) :
    List.Forall₂ (Diagnostic.Regraded registry s s') (model.diagnostics s registry path)
      (model.diagnostics s' registry path) := by
  have hrules : List.Forall₂ (fun rule rule' => rule = rule' ∧ rule ∈ registry.rules)
      (registry.forKind model.kind) (registry.forKind model.kind) :=
    List.forall₂_same.2 fun rule hrule => ⟨rfl, (List.mem_filter.1 hrule).1⟩
  refine List.rel_append (List.forall₂_same.2 fun d _ => .same d) ?_
  refine List.rel_flatMap hrules fun rule rule' hrule => ?_
  obtain ⟨rfl, hrule⟩ := hrule
  exact forall₂_ruleBlock h hignores hrule path model

end

/-- Outcomes under two settings: the same, but for the severities in what was checked. -/
inductive Outcome.Regraded (registry : Registry) (s s' : Settings) : Outcome → Outcome → Prop
  | same (outcome : Outcome) : Regraded registry s s' outcome outcome
  | checked {ds ds' : List Diagnostic}
      (hds : List.Forall₂ (Diagnostic.Regraded registry s s') ds ds') :
      Regraded registry s s' (.checked ds) (.checked ds')

/-- Reports under two settings: the same, but for the severities in them. -/
structure FileReport.Regraded (registry : Registry) (s s' : Settings) (r r' : FileReport) :
    Prop where
  path : r.path = r'.path
  failed : r.failed = r'.failed
  diagnostics : List.Forall₂ (Diagnostic.Regraded registry s s') r.diagnostics r'.diagnostics

theorem Outcome.Regraded.report? {registry : Registry} {s s' : Settings}
    {outcome outcome' : Outcome}
    (h : Regraded registry s s' outcome outcome') (p : Path) :
    Option.Rel (FileReport.Regraded registry s s') (outcome.report? p) (outcome'.report? p) := by
  have hsame : ∀ ds : List Diagnostic, List.Forall₂ (Diagnostic.Regraded registry s s') ds ds :=
    fun ds => List.forall₂_same.2 fun d _ => .same d
  cases h with
  | same =>
    cases outcome with
    | skipped => exact .none
    | failed ruleId message => exact .some ⟨rfl, rfl, hsame _⟩
    | checked ds => exact .some ⟨rfl, rfl, hsame _⟩
  | checked hds => exact .some ⟨rfl, rfl, hds⟩

namespace Job

/-- What a run on targets has collected in the end. -/
def collected (job : Job) (late : Path → Bool) (targets : List Path) : Collection :=
  { reports := targets.filterMap fun p => job.report? (late p) p, general := job.warnings }

theorem runInOrder_eq_result (job : Job) (late : Path → Bool) (targets : List Path) :
    job.runInOrder late targets = (job.collected late targets).result :=
  job.collect_eq_result _

section

variable (job : Job) {s s' : Settings} (h : s.SameButSeverities job.registry s')
variable (hignores : ∀ rule ∈ job.registry.rules, rule.IgnoresSeverity)

include h hignores

/-- **A file comes to the same**, whatever the severities are. -/
theorem check_regraded (p : Path) :
    Outcome.Regraded job.registry s s' (check { job with settings := s } p)
      (check { job with settings := s' } p) := by
  unfold check
  dsimp only
  rw [h.maxFileSize]
  cases job.tree.load p s'.maxFileSize with
  | error e => exact .same _
  | ok lines =>
    dsimp only
    cases detect? p (some (textOfLines lines)) with
    | none => exact .same _
    | some kind =>
      unfold lintLines
      dsimp only
      cases Model.ofLines kind lines with
      | error e => exact .same _
      | ok model => exact .checked (model.forall₂_diagnostics h hignores p.toText)

theorem outcome_regraded (late : Bool) (p : Path) :
    Outcome.Regraded job.registry s s' (outcome { job with settings := s } late p)
      (outcome { job with settings := s' } late p) := by
  unfold outcome
  dsimp only
  rw [h.timeout]
  split
  · exact .same _
  · exact job.check_regraded h hignores p

/-- The reports on the targets of a run are the same, one by one. -/
theorem reports_regraded (late : Path → Bool) (targets : List Path) :
    List.Forall₂ (FileReport.Regraded job.registry s s')
      (collected { job with settings := s } late targets).reports
      (collected { job with settings := s' } late targets).reports := by
  refine List.rel_filterMap (R := Eq) (fun p p' hp => ?_) (List.forall₂_refl _)
  subst hp
  exact (job.outcome_regraded h hignores (late p) p).report? p

end

end Job

/-! ## Results -/

/-- What is in one of two lists that agree element by element has a counterpart in the other. -/
theorem exists_of_mem_forall₂ {α β : Type} {R : α → β → Prop} {l : List α} {l' : List β}
    (h : List.Forall₂ R l l') {a : α} (ha : a ∈ l) : ∃ b ∈ l', R a b := by
  induction h with
  | nil => exact nomatch ha
  | cons hhead _ ih =>
    rcases List.mem_cons.1 ha with rfl | ha
    · exact ⟨_, List.mem_cons_self, hhead⟩
    · obtain ⟨b, hb, hab⟩ := ih ha
      exact ⟨b, List.mem_cons_of_mem _ hb, hab⟩

namespace Collection

section

variable {registry : Registry} {s s' : Settings} {c c' : Collection}
variable (hreports : List.Forall₂ (FileReport.Regraded registry s s') c.reports c'.reports)

include hreports

/-- The same files fail. -/
theorem map_failed_eq : c.reports.map FileReport.failed = c'.reports.map FileReport.failed := by
  rw [← List.forall₂_eq_eq_eq, List.forall₂_map_left_iff, List.forall₂_map_right_iff]
  exact hreports.imp fun _ _ hr => hr.failed

theorem filesChecked_eq : c.result.filesChecked = c'.result.filesChecked := by
  have hcount : ∀ c : Collection,
      c.result.filesChecked = (c.reports.map FileReport.failed).countP (!·) := by
    intro c
    rw [filesChecked_result, List.countP_map]
    rfl
  rw [hcount, hcount, map_failed_eq hreports]

theorem filesFailed_eq : c.result.filesFailed = c'.result.filesFailed := by
  have hcount : ∀ c : Collection,
      c.result.filesFailed = (c.reports.map FileReport.failed).countP (·) := by
    intro c
    rw [filesFailed_result, List.countP_map]
    rfl
  rw [hcount, hcount, map_failed_eq hreports]

/-- **The diagnostics are the same place by place**: both sorts look at keys that severities are no
part of. -/
theorem forall₂_diagnostics (hgeneral : c.general = c'.general) :
    List.Forall₂ (Diagnostic.Regraded registry s s') c.result.diagnostics
      c'.result.diagnostics := by
  refine forall₂_mergeSort (fun _ _ _ _ h h' => h.le_eq h') ?_
  rw [hgeneral]
  refine List.rel_append (List.forall₂_same.2 fun d _ => .same d) ?_
  refine List.rel_flatMap (forall₂_mergeSort (fun r r' q q' hr hq => ?_) hreports) ?_
  · unfold FileReport.le
    rw [hr.path, hq.path]
  · exact fun _ _ hr => hr.diagnostics

/-- Whether a run fails as a whole does not depend on severities. -/
theorem fatal_iff_fatal : c.result.status = .fatal ↔ c'.result.status = .fatal := by
  have hfatal : ∀ c : Collection, c.result.status = .fatal ↔
      true ∈ c.reports.map FileReport.failed ∧ false ∉ c.reports.map FileReport.failed := by
    intro c
    rw [fatal_iff, List.mem_map, List.mem_map]
  rw [hfatal, hfatal, map_failed_eq hreports]

/-- An error stays one when severities grow. -/
theorem errors_of_errors
    (hrank : ∀ rule ∈ registry.rules, (s.severity rule).rank ≤ (s'.severity rule).rank)
    (herrors : c.result.status = .errors) : c'.result.status = .errors := by
  obtain ⟨r, hr, hfailed, d, hd, hseverity⟩ := c.errors_iff.1 herrors
  obtain ⟨r', hr', hrr'⟩ := exists_of_mem_forall₂ hreports hr
  obtain ⟨d', hd', hdd'⟩ := exists_of_mem_forall₂ hrr'.diagnostics hd
  have hrank' := hdd'.rank_le hrank
  rw [hseverity] at hrank'
  have hseverity' : d'.severity = .error := by
    cases hd' : d'.severity with
    | error => rfl
    | info => rw [hd'] at hrank'; exact absurd hrank' (by decide)
    | warning => rw [hd'] at hrank'; exact absurd hrank' (by decide)
  exact c'.errors_iff.2 ⟨r', hr', hrr'.failed ▸ hfailed, d', hd', hseverity'⟩

/-- **The status grows with the severities.** -/
theorem code_le
    (hrank : ∀ rule ∈ registry.rules, (s.severity rule).rank ≤ (s'.severity rule).rank) :
    c.result.status.code ≤ c'.result.status.code := by
  cases hstatus : c.result.status with
  | clean => exact Nat.zero_le _
  | errors => exact Nat.le_of_eq (congrArg _ (errors_of_errors hreports hrank hstatus)).symm
  | fatal => exact Nat.le_of_eq (congrArg _ ((fatal_iff_fatal hreports).1 hstatus)).symm

end

end Collection

namespace Job

/-- **Severities are cosmetic, and the status is monotone in them.** Let two settings differ only in
the severities of rules, and let a run with each take a settled course. If they come to their ends,
they list the same findings at the same places, with the same diagnostics of readers and failures,
and check and fail the same files. If the severities of the second are at least those of the first,
so is its exit code. A run that does not come to its end has no result. -/
theorem exists_yields_regraded (job : Job) (htree : job.tree.WellFormed) (given : List Text)
    (s s' : Settings) (h : s.SameButSeverities .standard s') (c c' : Course)
    (hc : Settled { job with registry := .standard, settings := s } (given.map Path.ofText) c)
    (hc' : Settled { job with registry := .standard, settings := s' }
      (given.map Path.ofText) c') :
    ∃ result result',
      Yields { job with registry := .standard, settings := s } (given.map Path.ofText) c result ∧
      Yields { job with registry := .standard, settings := s' } (given.map Path.ofText) c'
        result' ∧
      List.Forall₂
        (fun d d' => d.SameFinding d' ∧
          (d.ruleId ∈ [parseErrorId, ruleErrorId, loadErrorId, timeoutId, internalErrorId] →
            d = d'))
        result.diagnostics result'.diagnostics ∧
      result.filesChecked = result'.filesChecked ∧
      result.filesFailed = result'.filesFailed ∧
      ((∀ rule ∈ Registry.standard.rules, (s.severity rule).rank ≤ (s'.severity rule).rank) →
        result.status.code ≤ result'.status.code) := by
  have htexts := FileTree.nodup_map_toText_discover htree given
  have hlate : late { job with registry := .standard, settings := s' } (given.map Path.ofText)
      = late { job with registry := .standard, settings := s } (given.map Path.ofText) := by
    unfold late
    rw [← h.workers]
    rfl
  have hyields' := hc'.yields htexts
  rw [hlate] at hyields'
  refine ⟨_, _, hc.yields htexts, hyields', ?_⟩
  have hreports := reports_regraded { job with registry := .standard } h
    Rule.ignoresSeverity_standard
    (late { job with registry := .standard, settings := s } (given.map Path.ofText))
    (job.tree.discover (given.map Path.ofText))
  have hids : ∀ id ∈ [parseErrorId, ruleErrorId, loadErrorId, timeoutId, internalErrorId],
      id ∉ Registry.standard.rules.map Rule.id := by
    decide +kernel
  rw [runInOrder_eq_result, runInOrder_eq_result]
  refine ⟨?_, Collection.filesChecked_eq hreports, Collection.filesFailed_eq hreports,
    Collection.code_le hreports⟩
  exact (Collection.forall₂_diagnostics hreports rfl).imp fun d d' hd =>
    ⟨hd.sameFinding, fun hid => hd.eq_of_not_rule (hids d.ruleId hid)⟩

/-- Blanks around an equals sign, which are a warning by default, are made an error. -/
theorem exists_yields_regraded_spacing :
    let s' : Settings :=
      { rules := fun kind =>
          if kind = .env then [("env-malformed-spacing", { severity := some .error })] else [] }
    let job : Job := { tree := .ofEntries ["w"] [("a.env", .file "A = 1\n".toUTF8.toList)] }
    let paths := List.map Path.ofText ["a.env"]
    Settings.SameButSeverities .standard {} s' ∧ ∃ result result',
      job.perform paths (job.course paths) = .ok result ∧
      perform { job with settings := s' } paths (course { job with settings := s' } paths)
        = .ok result' ∧
      result.status.code ≤ result'.status.code := by
  intro s' job paths
  have hsame : Settings.SameButSeverities .standard {} s' :=
    ⟨rfl, rfl, rfl, rfl, by decide +kernel⟩
  obtain ⟨result, result', hyields, hyields', -, -, -, hcode⟩ :=
    exists_yields_regraded job (by decide +kernel) ["a.env"] {} s' hsame _ _
      (settled_course _ _ nofun) (settled_course _ _ nofun)
  refine ⟨hsame, result, result', hyields.ok ?_, hyields'.ok ?_, hcode (by decide +kernel)⟩
  · exact canEnd_of_canWait rfl (by decide +kernel)
  · exact canEnd_of_canWait rfl (by decide +kernel)

/-- With a limit of 10¹⁰ seconds neither run has a list of diagnostics. -/
theorem not_perform_ok_regraded_of_long_limit :
    let s : Settings := { timeout := some 10000000000 }
    let s' : Settings :=
      { s with
        rules := fun kind =>
          if kind = .env then [("env-malformed-spacing", { severity := some .error })] else [] }
    let job : Job :=
      { tree := .ofEntries ["w"] [("a.env", .file (List.replicate 500000 [35, 10]).flatten)] }
    let paths := List.map Path.ofText ["a.env"]
    Settings.SameButSeverities .standard s s' ∧ ∃ c c',
      Settled { job with settings := s } paths c ∧ Settled { job with settings := s' } paths c' ∧
      ¬ (∃ result, perform { job with settings := s } paths c = .ok result) ∧
      ¬ ∃ result, perform { job with settings := s' } paths c' = .ok result := by
  intro s s' job paths
  have hlong : canWait 10000000000 = false := by decide +kernel
  have htargets : job.tree.discover paths = [⟨0, ["a.env"]⟩] := by decide +kernel
  obtain ⟨hsettled, herror⟩ :=
    perform_course_eq_error { job with settings := s } htargets rfl hlong
  obtain ⟨hsettled', herror'⟩ :=
    perform_course_eq_error { job with settings := s' } htargets rfl hlong
  refine ⟨⟨rfl, rfl, rfl, rfl, by decide +kernel⟩, _, _, hsettled, hsettled', ?_, ?_⟩
  · rw [herror]
    exact nofun
  · rw [herror']
    exact nofun

end Job

end OpsLint
