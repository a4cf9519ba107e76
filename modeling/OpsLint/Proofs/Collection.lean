import OpsLint.Proofs.StableSort
import OpsLint.Run

/-!
# Collecting reports

What a run has found out comes in as reports, one by one. Two things are to be known about the
result that is made of them. It **forgets the order of arrival**, provided that no two reports are
on the same path (`Collection.result_eq_of_perm`); with two reports on one path, diagnostics that
agree in place and rule would be listed in the order of arrival.

And it can be **looked at through some of the paths only** (`Job.filter_collect`): the diagnostics
on these paths, in the order of the result, are those of the result that is made of the reports on
these paths alone. Reports on other paths neither add to them nor move them, not even where two of
them agree in place and rule. This needs every report to speak of its own path only, which
`Job.report?` sees to (`Job.path_of_mem_report`).
-/

namespace OpsLint

/-- **The order of arrival is forgotten**, if no two reports are on the same path. -/
theorem Collection.result_eq_of_perm {c c' : Collection} (hgeneral : c.general = c'.general)
    (hperm : c.reports.Perm c'.reports) (hpaths : (c.reports.map FileReport.path).Nodup) :
    c.result = c'.result := by
  unfold result sortedReports
  rw [hgeneral, FileReport.mergeSort_eq_of_perm hperm hpaths]

/-- Reports are kept as they come. -/
theorem Collection.foldl_addReport (c : Collection) (rs : List FileReport) :
    rs.foldl addReport c = { c with reports := c.reports ++ rs } := by
  induction rs generalizing c with
  | nil => rw [List.append_nil]; rfl
  | cons r rs ih =>
    rw [List.foldl_cons, ih]
    unfold addReport
    rw [List.append_assoc]
    rfl

namespace Job

theorem collect_eq_result (job : Job) (rs : List FileReport) :
    job.collect rs = Collection.result { reports := rs, general := job.warnings } := by
  unfold collect
  rw [Collection.foldl_addReport]
  rfl

/-- The diagnostics of a run: those about the run, then those of the reports in order of their
paths, all of them sorted. -/
theorem diagnostics_collect (job : Job) (rs : List FileReport) :
    (job.collect rs).diagnostics
      = (job.warnings ++ (rs.mergeSort FileReport.le).flatMap FileReport.diagnostics).mergeSort
          Diagnostic.le := by
  rw [collect_eq_result]
  rfl

/-- A run lists all diagnostics that it has collected, and no others. -/
theorem perm_diagnostics_collect (job : Job) (rs : List FileReport) :
    (job.collect rs).diagnostics.Perm (job.warnings ++ rs.flatMap FileReport.diagnostics) := by
  rw [diagnostics_collect]
  exact (List.mergeSort_perm _ _).trans
    (.append_left _ ((List.mergeSort_perm _ _).flatMap_right _))

theorem collect_eq_of_perm (job : Job) {rs rs' : List FileReport} (hperm : rs.Perm rs')
    (hpaths : (rs.map FileReport.path).Nodup) : job.collect rs = job.collect rs' := by
  rw [collect_eq_result, collect_eq_result]
  exact Collection.result_eq_of_perm rfl hperm hpaths

/-- A report contributes all of its diagnostics or none, according to its path. -/
theorem filter_flatMap_diagnostics (among : Text → Bool) (rs : List FileReport)
    (hown : ∀ r ∈ rs, ∀ d ∈ r.diagnostics, d.path = r.path) :
    (rs.flatMap FileReport.diagnostics).filter (fun d => among d.path)
      = (rs.filter (fun r => among r.path)).flatMap FileReport.diagnostics := by
  induction rs with
  | nil => rfl
  | cons r rs ih =>
    have hr := hown r List.mem_cons_self
    rw [List.flatMap_cons, List.filter_append,
      ih (fun r' hr' => hown r' (List.mem_cons_of_mem r hr'))]
    by_cases hamong : among r.path = true
    · rw [List.filter_cons, if_pos hamong, List.flatMap_cons,
        List.filter_eq_self.2 (fun d hd => by rw [hr d hd]; exact hamong)]
    · rw [List.filter_cons, if_neg hamong,
        List.filter_eq_nil_iff.2 (fun d hd => by rw [hr d hd]; exact hamong), List.nil_append]

/-- **A result can be looked at through some of the paths only.** -/
theorem filter_collect (job : Job) (rs : List FileReport) (among : Text → Bool)
    (hown : ∀ r ∈ rs, ∀ d ∈ r.diagnostics, d.path = r.path) :
    (job.collect rs).diagnostics.filter (fun d => among d.path)
      = (collect { job with warnings := job.warnings.filter (fun d => among d.path) }
          (rs.filter (fun r => among r.path))).diagnostics := by
  rw [diagnostics_collect, diagnostics_collect,
    filter_mergeSort Diagnostic.le_trans Diagnostic.le_total, List.filter_append,
    filter_flatMap_diagnostics among _ (fun r hr => hown r (List.mem_mergeSort.1 hr)),
    filter_mergeSort FileReport.le_trans FileReport.le_total]

end Job

/-! ## Every report speaks of its own path -/

theorem path_of_mem_ruleBlock {settings : Settings} {path : Text} {model : Model} {rule : Rule}
    {d : Diagnostic} (hd : d ∈ ruleBlock settings path model rule) : d.path = path := by
  unfold ruleBlock at hd
  split at hd
  · split at hd
    · obtain ⟨f, -, rfl⟩ := List.mem_map.1 hd
      rfl
    · rw [List.mem_singleton.1 hd]
      rfl
  · exact absurd hd List.not_mem_nil

/-- The diagnostics of a model are all about the path it is checked under. -/
theorem Model.path_of_mem_diagnostics {model : Model} {settings : Settings} {registry : Registry}
    {path : Text} {d : Diagnostic} (hd : d ∈ model.diagnostics settings registry path) :
    d.path = path := by
  rcases List.mem_append.1 hd with h | h
  · obtain ⟨f, -, rfl⟩ := List.mem_map.1 h
    rfl
  · obtain ⟨rule, -, hrule⟩ := List.mem_flatMap.1 h
    exact path_of_mem_ruleBlock hrule

theorem path_of_mem_lintLines {settings : Settings} {registry : Registry} {path : Text}
    {kind : Option FileKind} {lines : List Text} {ds : List Diagnostic}
    (h : lintLines settings registry path kind lines = .ok ds) {d : Diagnostic} (hd : d ∈ ds) :
    d.path = path := by
  unfold lintLines at h
  split at h
  · rw [← Except.ok.inj h] at hd
    exact absurd hd List.not_mem_nil
  · rename_i kind
    cases hmodel : Model.ofLines kind lines with
    | error e => rw [hmodel] at h; exact nomatch h
    | ok model =>
      rw [hmodel] at h
      rw [← Except.ok.inj h] at hd
      exact Model.path_of_mem_diagnostics hd

namespace Job

/-- The diagnostics of a target that was checked are about that target. -/
theorem path_of_mem_check {job : Job} {p : Path} {ds : List Diagnostic}
    (h : job.check p = .checked ds) {d : Diagnostic} (hd : d ∈ ds) : d.path = p.toText := by
  unfold check at h
  split at h
  · split at h <;> exact nomatch h
  · split at h
    · exact nomatch h
    · split at h
      · rename_i hlint
        exact path_of_mem_lintLines hlint (Outcome.checked.inj h ▸ hd)
      · exact nomatch h

/-- A report is on the path of its target. -/
theorem path_of_report {outcome : Outcome} {p : Path} {r : FileReport}
    (h : outcome.report? p = some r) : r.path = p.toText := by
  cases outcome with
  | skipped => exact nomatch h
  | failed ruleId message => rw [← Option.some.inj h]
  | checked ds => rw [← Option.some.inj h]

/-- **Every report speaks of its own path**, whatever became of the target. -/
theorem path_of_mem_report {job : Job} {late : Bool} {p : Path} {r : FileReport}
    (h : job.report? late p = some r) {d : Diagnostic} (hd : d ∈ r.diagnostics) :
    d.path = r.path := by
  rw [path_of_report h]
  unfold report? at h
  cases houtcome : job.outcome late p with
  | skipped => rw [houtcome] at h; exact nomatch h
  | failed ruleId message =>
    rw [houtcome] at h
    rw [← Option.some.inj h] at hd
    rw [List.mem_singleton.1 hd]
    rfl
  | checked ds =>
    rw [houtcome] at h
    rw [← Option.some.inj h] at hd
    have hcheck : job.check p = .checked ds := by
      unfold outcome at houtcome
      split at houtcome
      · exact nomatch houtcome
      · exact houtcome
    exact path_of_mem_check hcheck hd

end Job

end OpsLint
