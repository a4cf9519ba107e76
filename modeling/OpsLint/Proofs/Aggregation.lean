import OpsLint.Proofs.Collection

/-!
# What a result says about what was collected

A collection is built up by **contributions**, reports on files and diagnostics about the run, that
come in any order. This module says what the result of a collection is in terms of what was
contributed, without mentioning how it is computed (`LintResult.IsSummaryOf`).

The delicate part is the order of the diagnostics. Many of them can agree in file, line, column and
rule, and the result is to list these in a definite order too: those about the run first, then by
the path of the report they came in, then as they came. So each diagnostic is given its place in the
history of the collection (`Arrival`), and the result is the **one** list of all arrivals that is
strictly sorted by the four keys, the path of the report, the turn and the place within the turn.

The computation sorts twice, reports by path and diagnostics by the four keys, and the history is
found nowhere in it. That both sorts are stable is what puts it back: turns are in order to begin
with, and each sort refines the order it finds (`pairwise_mergeSort_then`).

The status looks at another population than the counts. It is decided by the files that were checked
alone, so that a run can end well and still list errors: on files that failed, or about the run.
-/

namespace OpsLint

/-- What is handed to a collection at one time. -/
inductive Contribution where
  | report (report : FileReport)
  | general (diagnostics : List Diagnostic)
deriving DecidableEq, Repr

namespace Contribution

/-- The report that a contribution is. -/
def report? : Contribution → Option FileReport
  | .report r => some r
  | .general _ => none

/-- The diagnostics about the run that a contribution is. -/
def general? : Contribution → Option (List Diagnostic)
  | .report _ => none
  | .general ds => some ds

/-- All diagnostics of a contribution. -/
def diagnostics : Contribution → List Diagnostic
  | .report r => r.diagnostics
  | .general ds => ds

/-- The path of the report that a contribution is; what is about the run has none. -/
def path? (c : Contribution) : Option Text := c.report?.map FileReport.path

end Contribution

namespace Collection

/-- Adds a contribution. -/
def add (c : Collection) : Contribution → Collection
  | .report r => c.addReport r
  | .general ds => c.addGeneral ds

/-- The collection of some contributions, in the order in which they come. -/
def ofContributions (cs : List Contribution) : Collection := cs.foldl add {}

theorem foldl_add (c : Collection) (cs : List Contribution) :
    cs.foldl add c
      = { reports := c.reports ++ cs.filterMap Contribution.report?
          general := c.general ++ (cs.filterMap Contribution.general?).flatten } := by
  induction cs generalizing c with
  | nil =>
    rw [List.filterMap_nil, List.filterMap_nil, List.flatten_nil, List.append_nil, List.append_nil]
    rfl
  | cons x cs ih =>
    rw [List.foldl_cons, ih]
    cases x with
    | report r => exact congrArg (Collection.mk · _) (List.append_assoc c.reports [r] _)
    | general ds => exact congrArg (Collection.mk _ ·) (List.append_assoc c.general ds _)

/-- **Contributions of the two sorts do not meet before the result is made.** -/
theorem ofContributions_eq (cs : List Contribution) :
    ofContributions cs
      = { reports := cs.filterMap Contribution.report?
          general := (cs.filterMap Contribution.general?).flatten } :=
  foldl_add {} cs

end Collection

/-! ## Arrivals -/

/-- A diagnostic with its place in the history of a collection. -/
structure Arrival where
  diagnostic : Diagnostic
  /-- The path of the report that it came in, if it did not come as one about the run. -/
  path? : Option Text
  /-- How many contributions came before the one that it is part of. -/
  turn : Nat
  /-- How many diagnostics stand before it in its contribution. -/
  place : Nat

/-- The order in which a result lists what has arrived. What is about the run has no path, and
stands before all that has one. -/
def Arrival.order (a b : Arrival) : Ordering :=
  (Diagnostic.order a.diagnostic b.diagnostic).then <| (compare a.path? b.path?).then <|
    (compare a.turn b.turn).then (compare a.place b.place)

/-- What arrives with a contribution. -/
def Contribution.arrivals (c : Contribution) (turn : Nat) : List Arrival :=
  c.diagnostics.zipIdx.map fun d => { diagnostic := d.1, path? := c.path?, turn, place := d.2 }

/-- What arrives with a list of contributions. -/
def arrivals (cs : List Contribution) : List Arrival :=
  cs.zipIdx.flatMap fun t => t.1.arrivals t.2

/-- Places are given in order. -/
theorem pairwise_zipIdx {α : Type} (l : List α) :
    l.zipIdx.Pairwise (fun a b => compare a.2 b.2 = .lt) := by
  have hplaces : (l.zipIdx.map Prod.snd).Pairwise (· < ·) := by
    rw [List.zipIdx_map_snd]
    exact List.pairwise_lt_range'
  exact (List.pairwise_map.1 hplaces).imp Nat.compare_eq_lt.2

namespace Contribution

theorem map_diagnostic_arrivals (c : Contribution) (turn : Nat) :
    (c.arrivals turn).map Arrival.diagnostic = c.diagnostics := by
  unfold arrivals
  rw [List.map_map]
  exact List.zipIdx_map_fst 0 c.diagnostics

theorem map_diagnostic_flatMap_arrivals (turns : List (Contribution × Nat)) :
    (turns.flatMap fun t => t.1.arrivals t.2).map Arrival.diagnostic
      = (turns.map Prod.fst).flatMap diagnostics := by
  rw [List.map_flatMap, List.flatMap_map]
  exact List.flatMap_congr fun t _ => map_diagnostic_arrivals t.1 t.2

/-- Within a turn the diagnostics are in order of their places. -/
theorem pairwise_arrivals (c : Contribution) (turn : Nat) :
    (c.arrivals turn).Pairwise fun a b =>
      (compare a.path? b.path?).then ((compare a.turn b.turn).then (compare a.place b.place))
        = .lt := by
  unfold arrivals
  rw [List.pairwise_map]
  refine (pairwise_zipIdx c.diagnostics).imp fun {a b} hplace => ?_
  dsimp only
  rw [Std.compare_self, Std.compare_self]
  exact hplace

/-- Contributions are compared by their paths. -/
def le (a b : Contribution) : Bool := (compare a.path? b.path?).isLE

/-- **What is about the run comes first, and then the reports in order.** -/
theorem mergeSort_eq (cs : List Contribution) :
    cs.mergeSort le
      = (cs.filterMap general?).map general
        ++ ((cs.filterMap report?).mergeSort FileReport.le).map report := by
  have htrans : ∀ a b c : Contribution, le a b → le b c → le a c :=
    fun a b c hab hbc => Std.TransCmp.isLE_trans hab hbc
  have htotal : ∀ a b : Contribution, le a b || le b a :=
    isLE_or_isLE_swap (compareOn path?)
  induction cs with
  | nil => rw [List.filterMap_nil, List.filterMap_nil, List.mergeSort_nil, List.mergeSort_nil]; rfl
  | cons c cs ih =>
    rw [mergeSort_cons_eq_filter htrans htotal, ih]
    cases c with
    | general ds =>
      -- it may stand before all others
      have hfirst : ∀ b, le (.general ds) b = true := by
        intro b
        cases b <;> rfl
      rw [List.filter_eq_self.2 fun b _ => hfirst b,
        List.filter_eq_nil_iff.2 fun b _ => by rw [hfirst b]; exact Bool.false_ne_true]
      rfl
    | report r =>
      -- it stays behind what is about the run, and is put among the reports
      have hgeneral : ∀ b ∈ (cs.filterMap general?).map general, le (.report r) b = false := by
        intro b hb
        obtain ⟨ds, -, rfl⟩ := List.mem_map.1 hb
        rfl
      have hstay : ((cs.filterMap general?).map general).filter (!le (.report r) ·)
          = (cs.filterMap general?).map general :=
        List.filter_eq_self.2 fun b hb => by rw [hgeneral b hb]; rfl
      have hnone : ((cs.filterMap general?).map general).filter (le (.report r) ·) = [] :=
        List.filter_eq_nil_iff.2 fun b hb => by rw [hgeneral b hb]; exact Bool.false_ne_true
      rw [List.filter_append, List.filter_append, hstay, hnone, List.nil_append, List.append_assoc,
        List.filter_map, List.filter_map]
      show _ = (cs.filterMap general?).map general
        ++ ((r :: cs.filterMap report?).mergeSort FileReport.le).map report
      rw [mergeSort_cons_eq_filter FileReport.le_trans FileReport.le_total, List.map_append]
      rfl

end Contribution

/-- **A result lists what has arrived, strictly in order.** The order is strict because no two
arrivals have the same turn and place, and so there is no other such list. -/
theorem Collection.exists_listing (cs : List Contribution) :
    ∃ listing : List Arrival, listing.Perm (arrivals cs) ∧
      listing.Pairwise (fun a b => Arrival.order a b = .lt) ∧
      listing.map Arrival.diagnostic = (ofContributions cs).result.diagnostics := by
  -- the turns in the order of their paths, and what has arrived in this order
  let turns := cs.zipIdx.mergeSort fun a b => Contribution.le a.1 b.1
  let found := turns.flatMap fun t => t.1.arrivals t.2
  have hturns : turns.Pairwise fun a b =>
      (compare a.1.path? b.1.path?).then (compare a.2 b.2) = .lt :=
    pairwise_mergeSort_then (fun t => t.1.path?) (pairwise_zipIdx cs)
  have hfound : found.Pairwise fun a b =>
      (compare a.path? b.path?).then ((compare a.turn b.turn).then (compare a.place b.place))
        = .lt := by
    refine List.pairwise_flatMap.2 ⟨fun t _ => t.1.pairwise_arrivals t.2, hturns.imp ?_⟩
    intro s t hst a ha b hb
    obtain ⟨_, _, rfl⟩ := List.mem_map.1 ha
    obtain ⟨_, _, rfl⟩ := List.mem_map.1 hb
    dsimp only
    rw [← Ordering.then_assoc, hst]
    rfl
  have hdiagnostics : found.map Arrival.diagnostic
      = (cs.filterMap Contribution.general?).flatten
        ++ ((cs.filterMap Contribution.report?).mergeSort FileReport.le).flatMap
          FileReport.diagnostics := by
    have hfst : turns.map Prod.fst = cs.mergeSort Contribution.le := by
      rw [← List.zipIdx_map_fst 0 cs]
      exact List.map_mergeSort fun _ _ _ _ => rfl
    rw [Contribution.map_diagnostic_flatMap_arrivals, hfst, Contribution.mergeSort_eq,
      List.flatMap_append, List.flatMap_map, List.flatMap_map, ← List.flatMap_id]
    rfl
  refine ⟨found.mergeSort fun a b => Diagnostic.le a.diagnostic b.diagnostic, ?_, ?_, ?_⟩
  · exact (List.mergeSort_perm _ _).trans ((List.mergeSort_perm _ _).flatMap_right _)
  · exact pairwise_mergeSort_then Arrival.diagnostic hfound
  · rw [List.map_mergeSort (s := Diagnostic.le) fun _ _ _ _ => rfl, hdiagnostics,
      ofContributions_eq]
    rfl

/-! ## Files and status -/

namespace Collection

theorem filesChecked_result (c : Collection) :
    c.result.filesChecked = c.reports.countP (!·.failed) := by
  show (c.sortedReports.filter (!·.failed)).length = _
  rw [← List.countP_eq_length_filter]
  exact (List.mergeSort_perm _ _).countP_eq _

theorem filesFailed_result (c : Collection) :
    c.result.filesFailed = c.reports.countP (·.failed) := by
  have hlength := c.sortedReports.length_eq_countP_add_countP (·.failed)
  have hfailed := (List.mergeSort_perm c.reports FileReport.le).countP_eq (·.failed)
  show c.sortedReports.length - (c.sortedReports.filter (!·.failed)).length = _
  rw [← List.countP_eq_length_filter]
  simp only [Bool.not_eq_true, Bool.decide_eq_false] at hlength
  rw [hlength, Nat.add_sub_cancel]
  exact hfailed

theorem statusOf_eq_fatal {checked : List FileReport} {failed : Nat} :
    statusOf checked failed = .fatal ↔ failed ≠ 0 ∧ checked = [] := by
  unfold statusOf
  by_cases h : (failed ≠ 0 && checked.isEmpty) = true
  · rw [if_pos h]
    simpa using h
  · rw [if_neg h]
    constructor
    · intro hstatus
      split at hstatus <;> exact nomatch hstatus
    · rintro ⟨hfailed, rfl⟩
      exact absurd (by simpa using hfailed) h

theorem statusOf_eq_errors {checked : List FileReport} {failed : Nat} :
    statusOf checked failed = .errors ↔
      ∃ r ∈ checked, ∃ d ∈ r.diagnostics, d.severity = .error := by
  have hany : (checked.any fun r => r.diagnostics.any (·.severity = .error)) = true ↔
      ∃ r ∈ checked, ∃ d ∈ r.diagnostics, d.severity = .error := by
    simp only [List.any_eq_true, decide_eq_true_eq]
  rw [← hany]
  unfold statusOf
  cases checked with
  | nil => cases failed <;> simp
  | cons r rs =>
    rw [List.isEmpty_cons, Bool.and_false, if_neg Bool.false_ne_true]
    split
    · rename_i h
      exact iff_of_true rfl h
    · rename_i h
      exact iff_of_false nofun h

/-- The reports on files that were checked. -/
theorem mem_checked {c : Collection} {r : FileReport} :
    r ∈ c.sortedReports.filter (!·.failed) ↔ r ∈ c.reports ∧ r.failed = false := by
  rw [List.mem_filter, Bool.not_eq_true', sortedReports, List.mem_mergeSort]

/-- **A run fails as a whole** if there is a file that failed and none that did not. -/
theorem fatal_iff (c : Collection) :
    c.result.status = .fatal ↔
      (∃ r ∈ c.reports, r.failed = true) ∧ ¬ ∃ r ∈ c.reports, r.failed = false := by
  have hfailed : c.result.filesFailed ≠ 0 ↔ ∃ r ∈ c.reports, r.failed = true := by
    rw [filesFailed_result, ← Nat.pos_iff_ne_zero, List.countP_pos_iff]
  have hchecked : c.sortedReports.filter (!·.failed) = [] ↔
      ¬ ∃ r ∈ c.reports, r.failed = false := by
    rw [List.eq_nil_iff_forall_not_mem, not_exists]
    exact forall_congr' fun r => not_congr mem_checked
  exact statusOf_eq_fatal.trans (and_congr hfailed hchecked)

/-- **A run finds errors** if a file that did not fail has one. -/
theorem errors_iff (c : Collection) :
    c.result.status = .errors ↔
      ∃ r ∈ c.reports, r.failed = false ∧ ∃ d ∈ r.diagnostics, d.severity = .error := by
  refine statusOf_eq_errors.trans (exists_congr fun r => ?_)
  rw [mem_checked, and_assoc]

end Collection

/-! ## The summary -/

/-- A result says what was contributed to it. -/
structure LintResult.IsSummaryOf (result : LintResult) (cs : List Contribution) : Prop where
  /-- No diagnostic is lost, and none is added. -/
  perm : result.diagnostics.Perm (cs.flatMap Contribution.diagnostics)
  /-- Diagnostics are listed by file, line, column and rule. -/
  sorted : result.diagnostics.Pairwise (fun a b => Diagnostic.le a b = true)
  /-- Where these do not tell, what is about the run comes first, then reports go by their paths,
  and then all is as it came. -/
  listing : ∃ listing : List Arrival, listing.Perm (arrivals cs) ∧
    listing.Pairwise (fun a b => Arrival.order a b = .lt) ∧
    listing.map Arrival.diagnostic = result.diagnostics
  count : ∀ severity : Severity,
    result.count severity = (cs.flatMap Contribution.diagnostics).countP (·.severity = severity)
  filesChecked : result.filesChecked = (cs.filterMap Contribution.report?).countP (!·.failed)
  filesFailed : result.filesFailed = (cs.filterMap Contribution.report?).countP (·.failed)
  fatal : result.status.code = 2 ↔
    (∃ r ∈ cs.filterMap Contribution.report?, r.failed = true) ∧
      ¬ ∃ r ∈ cs.filterMap Contribution.report?, r.failed = false
  errors : result.status.code = 1 ↔
    ∃ r ∈ cs.filterMap Contribution.report?,
      r.failed = false ∧ ∃ d ∈ r.diagnostics, d.severity = .error
  clean : result.status.code = 0 ↔ result.status.code ≠ 2 ∧ result.status.code ≠ 1
  /-- The errors that make a run end badly are counted. -/
  hasErrors : result.status.code = 1 → result.hasErrors = true
  /-- Errors that are counted in a run that ends well are on files that failed or about the run. -/
  elsewhere : result.hasErrors = true → result.status.code = 0 →
    (∃ r ∈ cs.filterMap Contribution.report?,
      r.failed = true ∧ ∃ d ∈ r.diagnostics, d.severity = .error) ∨
    ∃ ds ∈ cs.filterMap Contribution.general?, ∃ d ∈ ds, d.severity = .error

theorem ExitStatus.code_eq_two {status : ExitStatus} : status.code = 2 ↔ status = .fatal := by
  cases status <;> decide

theorem ExitStatus.code_eq_one {status : ExitStatus} : status.code = 1 ↔ status = .errors := by
  cases status <;> decide

namespace Collection

/-- **What is counted is what is listed.** -/
theorem count_result (c : Collection) (severity : Severity) :
    c.result.count severity = c.result.diagnostics.countP (·.severity = severity) :=
  Counts.get_ofDiagnostics _ severity

theorem hasErrors_iff (c : Collection) :
    c.result.hasErrors = true ↔ ∃ d ∈ c.result.diagnostics, d.severity = .error := by
  rw [LintResult.hasErrors, decide_eq_true_iff, count_result, List.countP_pos_iff]
  simp only [decide_eq_true_eq]

end Collection

/-- A diagnostic that is contributed is in a report or about the run. -/
theorem Contribution.mem_flatMap_diagnostics {cs : List Contribution} {d : Diagnostic} :
    d ∈ cs.flatMap diagnostics ↔
      (∃ r ∈ cs.filterMap report?, d ∈ r.diagnostics) ∨ ∃ ds ∈ cs.filterMap general?, d ∈ ds := by
  rw [List.mem_flatMap]
  constructor
  · rintro ⟨c, hc, hd⟩
    cases c with
    | report r => exact .inl ⟨r, List.mem_filterMap.2 ⟨_, hc, rfl⟩, hd⟩
    | general ds => exact .inr ⟨ds, List.mem_filterMap.2 ⟨_, hc, rfl⟩, hd⟩
  · rintro (⟨r, hr, hd⟩ | ⟨ds, hds, hd⟩)
    · obtain ⟨c, hc, h⟩ := List.mem_filterMap.1 hr
      cases c with
      | report r' => exact ⟨_, hc, (Option.some.inj h) ▸ hd⟩
      | general ds => exact nomatch h
    · obtain ⟨c, hc, h⟩ := List.mem_filterMap.1 hds
      cases c with
      | report r => exact nomatch h
      | general ds' => exact ⟨_, hc, (Option.some.inj h) ▸ hd⟩

namespace Collection

/-- A result lists the diagnostics of all contributions. -/
theorem perm_diagnostics_result (cs : List Contribution) :
    (ofContributions cs).result.diagnostics.Perm (cs.flatMap Contribution.diagnostics) := by
  obtain ⟨listing, hperm, -, hdiagnostics⟩ := exists_listing cs
  rw [← hdiagnostics]
  refine (hperm.map Arrival.diagnostic).trans (.of_eq ?_)
  rw [arrivals, Contribution.map_diagnostic_flatMap_arrivals, List.zipIdx_map_fst]

/-- **A result says what was contributed to it.** -/
theorem isSummaryOf_result (cs : List Contribution) :
    (ofContributions cs).result.IsSummaryOf cs := by
  have hreports : (ofContributions cs).reports = cs.filterMap Contribution.report? := by
    rw [ofContributions_eq]
  have hperm := perm_diagnostics_result cs
  have hfatal := (ofContributions cs).fatal_iff
  have herrors := (ofContributions cs).errors_iff
  rw [hreports] at hfatal herrors
  refine {
    perm := hperm
    sorted := List.pairwise_mergeSort Diagnostic.le_trans Diagnostic.le_total _
    listing := exists_listing cs
    count := fun severity => (count_result _ severity).trans (hperm.countP_eq _)
    filesChecked := by rw [filesChecked_result, hreports]
    filesFailed := by rw [filesFailed_result, hreports]
    fatal := ExitStatus.code_eq_two.trans hfatal
    errors := ExitStatus.code_eq_one.trans herrors
    clean := by cases (ofContributions cs).result.status <;> decide
    hasErrors := fun hcode => ?_
    elsewhere := fun hhas hcode => ?_ }
  · obtain ⟨r, hr, -, d, hd, hseverity⟩ := herrors.1 (ExitStatus.code_eq_one.1 hcode)
    have hmem := Contribution.mem_flatMap_diagnostics.2 (.inl ⟨r, hr, hd⟩)
    exact (hasErrors_iff _).2 ⟨d, hperm.mem_iff.2 hmem, hseverity⟩
  · obtain ⟨d, hd, hseverity⟩ := (hasErrors_iff _).1 hhas
    rcases Contribution.mem_flatMap_diagnostics.1 (hperm.mem_iff.1 hd) with
      ⟨r, hr, hd⟩ | ⟨ds, hds, hd⟩
    · -- on a file that did not fail, it would have made the run end otherwise
      refine .inl ⟨r, hr, ?_, d, hd, hseverity⟩
      by_contra hfailed
      rw [herrors.2 ⟨r, hr, eq_false_of_ne_true hfailed, d, hd, hseverity⟩] at hcode
      exact nomatch hcode
    · exact .inr ⟨ds, hds, d, hd, hseverity⟩

/-- **Nothing is lost in a result, and its end is what the files say.** Contributions in any other
order give the same result, if what is about the run comes in the same order and no two reports are
on the same path. -/
theorem result_summarizes (cs : List Contribution) :
    (ofContributions cs).result.IsSummaryOf cs ∧
      ∀ cs' : List Contribution,
        cs'.filterMap Contribution.general? = cs.filterMap Contribution.general? →
        (cs'.filterMap Contribution.report?).Perm (cs.filterMap Contribution.report?) →
        ((cs'.filterMap Contribution.report?).map FileReport.path).Nodup →
        (ofContributions cs').result = (ofContributions cs).result := by
  refine ⟨isSummaryOf_result cs, fun cs' hgeneral hperm hpaths => ?_⟩
  rw [ofContributions_eq, ofContributions_eq]
  exact result_eq_of_perm (congrArg List.flatten hgeneral) hperm hpaths

/-- A file that failed and a file that was checked come in either order, and what is about the run
before, between or after them. -/
theorem result_summarizes_interleaved :
    let failed : FileReport :=
      { path := "b.env"
        diagnostics := [.aboutFile .error "b.env" loadErrorId "Cannot load file: file not found"]
        failed := true }
    let checked : FileReport :=
      { path := "a.env", diagnostics := [⟨.warning, "a.env", 1, 3, "spacing", "blanks"⟩] }
    let notice : Diagnostic := .aboutFile .warning "ops.yaml" "config-warning" "unknown key"
    (ofContributions [.report failed, .general [notice], .report checked]).result
      = (ofContributions [.general [notice], .report checked, .report failed]).result := by
  intro failed checked notice
  exact (result_summarizes _).2 _ rfl (.swap checked failed []) (by decide)

end Collection

end OpsLint
