import OpsLint.Proofs.Courses
import OpsLint.Proofs.Lines
import OpsLint.Proofs.Utf8

/-!
# Texts in memory and texts in files

A text can be checked as it is (`lintText`), or written to a file that a run is then sent to. Both
come to the same (`Job.yields_lintText`): the run lists what the text gives rise to among its
warnings, in order, and where the text cannot be read it reports that on the file. Only a run that
has to wait for longer than can be waited for lists nothing.

The two ways differ in what they look at to tell the kind of the file. In memory this is the text
itself; a run has only the lines that were loaded, and puts these together again. The one line that
may get lost on the way is empty, and an empty line tells nothing about a crontab
(`Crontab.looksLikeCrontab_textOfLines`).
-/

namespace OpsLint

/-! ## The kind of a file -/

namespace Crontab

/-- A crontab is known by its lines as well as by its text. -/
theorem looksLikeCrontab_textOfLines (s : Text) :
    looksLikeCrontab (textOfLines (Text.lines s)) = looksLikeCrontab s := by
  have hfind : ((Text.lines (textOfLines (Text.lines s))).map Text.trim).find? (!isIgnored ·)
      = ((Text.lines s).map Text.trim).find? (!isIgnored ·) := by
    rcases Text.lines_textOfLines (fun l hl => Text.isLine_of_mem_lines hl) with h | h
    · rw [h]
    · -- the line that was lost is empty, and empty lines are ignored
      nth_rewrite 2 [← h]
      rw [List.map_append, List.find?_append, Option.or_eq_left_of_none]
      rfl
  unfold looksLikeCrontab
  rw [hfind]

end Crontab

/-- **The kind of a file is told by its lines as well as by its text.** -/
theorem detect?_textOfLines (p : Path) (s : Text) :
    detect? p (some (textOfLines (Text.lines s))) = detect? p (some s) := by
  unfold detect?
  rw [Option.any_some, Option.any_some, Crontab.looksLikeCrontab_textOfLines]

/-! ## Loading what was written -/

/-- A text that was written to a file is loaded as its lines. -/
theorem FileTree.load_encode {t : FileTree} {p : Path} {s : Text} {limit : Nat}
    (hfile : t.get? p = some (.file (Utf8.encode s))) (hmark : s.head? ≠ some Utf8.mark)
    (hsize : (Utf8.encode s).length ≤ limit) : t.load p limit = .ok (Text.lines s) := by
  unfold load
  rw [hfile]
  show (if limit < (Utf8.encode s).length then _ else _) = _
  rw [if_neg (Nat.not_lt.2 hsize), linesOfBytes, Utf8.dropMark_encode hmark,
    Utf8.decodeLossy_encode]

/-! ## A run on one file -/

namespace Job

/-- The result that lists the warnings and some diagnostics, in order. -/
def resultWith (job : Job) (ds : List Diagnostic) (filesChecked filesFailed : Nat)
    (status : ExitStatus) : LintResult :=
  { diagnostics := (job.warnings ++ ds).mergeSort Diagnostic.le
    counts := .ofDiagnostics ((job.warnings ++ ds).mergeSort Diagnostic.le)
    filesChecked, filesFailed, status }

theorem collect_nil (job : Job) : job.collect [] = job.resultWith [] 0 0 .clean := by
  rw [collect_eq_result]
  unfold Collection.result Collection.sortedReports
  dsimp only
  rw [List.mergeSort_nil, List.flatMap_nil]
  rfl

/-- The result of collecting a single report. -/
theorem collect_singleton (job : Job) (r : FileReport) :
    job.collect [r]
      = if r.failed then job.resultWith r.diagnostics 0 1 .fatal
        else job.resultWith r.diagnostics 1 0
          (if r.diagnostics.any (·.severity = .error) then .errors else .clean) := by
  rw [collect_eq_result]
  unfold Collection.result Collection.sortedReports
  dsimp only
  rw [List.mergeSort_singleton, List.flatMap_singleton, List.filter_singleton]
  cases r.failed with
  | true => rfl
  | false =>
    show LintResult.mk _ _ _ _ (Collection.statusOf [r] 0) = _
    unfold Collection.statusOf
    rw [List.any_cons, List.any_nil, Bool.or_false]
    rfl

/-- What becomes of a text in a file, by what becomes of it in memory. -/
theorem check_eq_lintText {job : Job} {p : Path} (hp : p.WellFormed) {s : Text}
    (hfile : job.tree.get? p = some (.file (Utf8.encode s))) (hmark : s.head? ≠ some Utf8.mark)
    (hsize : (Utf8.encode s).length ≤ job.settings.maxFileSize) :
    job.check p
      = if (detect? p (some s)).isNone then .skipped
        else match lintText job.settings job.registry p.toText s with
          | .ok diagnostics => .checked diagnostics
          | .error e =>
            .failed internalErrorId ("Internal error while linting: " ++ e.message) := by
  unfold check lintText
  rw [FileTree.load_encode hfile hmark hsize, Path.ofText_toText hp]
  dsimp only
  rw [detect?_textOfLines]
  cases detect? p (some s) with
  | none => rfl
  | some kind => rfl

/-- A run on one file that is finished collects the report on it. -/
theorem Possible.yields_of_singleton {job : Job} {p : Path} {c : Course}
    (hc : job.Possible [p] c) (hp : job.tree.isDir p = false) (hpending : c.pending = []) :
    job.Yields [p] c (job.collect ((job.check p).report? p).toList) := by
  have htargets : job.tree.discover [p] = [p] := by
    unfold FileTree.discover
    rw [List.flatMap_singleton, FileTree.expand_of_not_dir hp]
    rfl
  have hdone : c.done = [p] := by
    have hperm := hc.perm
    rw [htargets, hpending, List.append_nil] at hperm
    exact List.perm_singleton.1 hperm
  have hresult : job.resultAt c.done c.pending
      = job.collect ((job.check p).report? p).toList := by
    rw [hdone, hpending, resultAt, List.filterMap_nil, List.append_nil]
    refine congrArg job.collect ?_
    cases h : (job.check p).report? p with
    | none => exact List.filterMap_cons_none h
    | some r => exact List.filterMap_cons_some h
  exact hresult ▸ hc.yields

/-- **A text in a file is checked like the text in memory.** Let a run on the file take any course
in which the file is finished. If nothing tells the kind of the file, it yields only the warnings;
if the text can be read, the warnings and its diagnostics in order; and if not, the warnings and one
error about the file. -/
theorem yields_lintText (job : Job) (name s : Text)
    (hfile : job.tree.get? (Path.ofText name) = some (.file (Utf8.encode s)))
    (hmark : s.head? ≠ some Utf8.mark)
    (hsize : (Utf8.encode s).length ≤ job.settings.maxFileSize) (c : Course)
    (hc : job.Possible [Path.ofText name] c) (hpending : c.pending = []) :
    job.Yields [Path.ofText name] c
      (match detect? (Path.ofText name) (some s),
          lintText job.settings job.registry (Path.ofText name).toText s with
        | none, _ => job.resultWith [] 0 0 .clean
        | some _, .ok diagnostics =>
          job.resultWith diagnostics 1 0
            (if diagnostics.any (·.severity = .error) then .errors else .clean)
        | some _, .error e =>
          job.resultWith [Diagnostic.aboutFile .error (Path.ofText name).toText internalErrorId
            ("Internal error while linting: " ++ e.message)] 0 1 .fatal) := by
  have hdir : job.tree.isDir (Path.ofText name) = false := by
    unfold FileTree.isDir
    rw [hfile]
    rfl
  refine Eq.mp (congrArg (job.Yields _ c) ?_) (hc.yields_of_singleton hdir hpending)
  rw [check_eq_lintText (Path.wellFormed_ofText name) hfile hmark hsize]
  cases detect? (Path.ofText name) (some s) with
  | none => exact collect_nil job
  | some kind =>
    cases lintText job.settings job.registry (Path.ofText name).toText s with
    | ok diagnostics => exact collect_singleton job _
    | error e => exact collect_singleton job _

/-- A crontab that is known by its second line, with an empty line at the end. -/
theorem yields_lintText_crontab :
    let s : Text := "# at night\r\n@daily backup\r\n\r\n"
    let job : Job := { tree := .ofEntries ["w"] [("jobs", .file (Utf8.encode s))] }
    job.perform [Path.ofText "jobs"] (job.course [Path.ofText "jobs"])
      = .ok (job.resultWith [] 1 0 .clean) := by
  intro s job
  have hpath : Path.ofText "jobs" = ⟨0, ["jobs"]⟩ := by decide +kernel
  have hkind : detect? (Path.ofText "jobs") (some s) = some .crontab := by decide +kernel
  have hlint : (lintText job.settings job.registry (Path.ofText "jobs").toText s).toOption
      = some [] := by
    decide +kernel
  have hyields := yields_lintText job "jobs" s (by rw [hpath]; rfl) (by decide) (by decide +kernel)
    _ (settled_course job [Path.ofText "jobs"] nofun).possible (by decide +kernel)
  have hcan : job.CanEnd (job.course [Path.ofText "jobs"]) :=
    canEnd_of_canWait rfl (by decide +kernel)
  rw [hkind] at hyields
  cases hresult : lintText job.settings job.registry (Path.ofText "jobs").toText s with
  | error e =>
    rw [hresult] at hlint
    exact nomatch hlint
  | ok diagnostics =>
    rw [hresult] at hlint hyields
    rw [hyields.ok hcan, Option.some.inj hlint]
    rfl

/-- With a limit of 10¹⁰ seconds, a run on a long file of comments has no result. -/
theorem not_perform_ok_lintText_of_long_limit :
    let s : Text := (List.replicate 500000 ("#\n" : Text)).flatten
    let job : Job := {
      tree := .ofEntries ["w"] [("a.env", .file (Utf8.encode s))]
      settings := { timeout := some 10000000000 } }
    let p := Path.ofText "a.env"
    job.tree.get? p = some (.file (Utf8.encode s)) ∧ s.head? ≠ some Utf8.mark ∧
      (Utf8.encode s).length ≤ job.settings.maxFileSize ∧
      ∃ c, job.Possible [p] c ∧ c.pending = [] ∧
        ¬ ∃ result, job.perform [p] c = .ok result := by
  intro s job p
  have hp : p = ⟨0, ["a.env"]⟩ := by decide +kernel
  have hlength : (Utf8.encode s).length = 500000 * 2 := by
    show (List.flatMap _ (List.replicate _ _).flatten).length = _
    rw [List.length_flatMap, List.map_flatten, List.sum_flatten, List.map_replicate,
      List.map_replicate, List.sum_replicate_nat]
    rfl
  have htargets : job.tree.discover [p] = [p] := by decide +kernel
  obtain ⟨hsettled, herror⟩ := job.perform_course_eq_error htargets rfl (by decide +kernel)
  refine ⟨by rw [hp]; rfl, ?_, ?_, _, hsettled.possible, by decide +kernel, ?_⟩
  · decide +kernel
  · rw [hlength]
    decide
  · rw [herror]
    exact nofun

end Job

end OpsLint
