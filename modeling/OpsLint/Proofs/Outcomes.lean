import OpsLint.Proofs.Aggregation
import OpsLint.Proofs.Courses

/-!
# What becomes of the targets of a run

Every target of a run meets exactly one of five fates: it is not finished in time, it is skipped, it
cannot be loaded, it cannot be parsed, or it is checked. `Job.Meets` says when, in terms of the file
tree, of the content, and of what is pending in the end. Two borders are drawn by different means:
whether a file that cannot be loaded is skipped depends on its name alone, and whether one that has
been loaded is skipped depends on its content too.

The result of a run **accounts for all targets** (`Job.Accounts`): its diagnostics are those about
the settings and those that each fate calls for, no more and no less, and a target is counted as
checked, as failed or not at all.

A run that comes to its end has such a result, whatever course it takes (`exists_accounts`). One
that has to wait with a limit of 2⁶³ nanoseconds or more, which is 292 years, does not come to its
end, although settings admit such a limit (`not_exists_accounts_of_long_limit`).
-/

namespace OpsLint

/-! ## Loading -/

namespace FileTree

/-- Why a path cannot be loaded: there is nothing, there is a directory, or there is a file that is
too large or that the system refuses to have read. -/
inductive Unloadable (t : FileTree) (p : Path) (limit : Nat) : LoadError → Prop
  | missing (h : t.get? p = none) : Unloadable t p limit .notFound
  | directory {entries : List (Text × Node)} (h : t.get? p = some (.dir entries)) :
      Unloadable t p limit .isDirectory
  | tooLarge {bytes : List UInt8} {refusal : Option Text}
      (h : t.get? p = some (.file bytes refusal)) (hsize : limit < bytes.length) :
      Unloadable t p limit (.tooLarge bytes.length limit)
  | refused {bytes : List UInt8} {reason : Text} (h : t.get? p = some (.file bytes (some reason)))
      (hsize : bytes.length ≤ limit) : Unloadable t p limit (.refused reason)

/-- The lines of the file at a path, which can be read and is not too large. -/
def Loads (t : FileTree) (p : Path) (limit : Nat) (lines : List Text) : Prop :=
  ∃ bytes, t.get? p = some (.file bytes none) ∧ bytes.length ≤ limit ∧ lines = linesOfBytes bytes

variable {t : FileTree} {p : Path} {limit : Nat}

theorem load_eq_error_iff {e : LoadError} :
    t.load p limit = .error e ↔ t.Unloadable p limit e := by
  unfold load
  constructor
  · intro h
    split at h
    · rename_i hget
      cases h
      exact .missing hget
    · rename_i hget
      cases h
      exact .directory hget
    · rename_i bytes refusal hget
      split at h
      · rename_i hsize
        cases h
        exact .tooLarge hget hsize
      · rename_i hsize
        cases refusal with
        | none => exact nomatch h
        | some reason =>
          cases h
          exact .refused hget (Nat.not_lt.1 hsize)
  · intro h
    cases h with
    | missing h => rw [h]
    | directory h => rw [h]
    | tooLarge h hsize =>
      rw [h]
      exact if_pos hsize
    | refused h hsize =>
      rw [h]
      exact if_neg (Nat.not_lt.2 hsize)

theorem load_eq_ok_iff {lines : List Text} :
    t.load p limit = .ok lines ↔ t.Loads p limit lines := by
  unfold load
  constructor
  · intro h
    split at h
    · exact nomatch h
    · exact nomatch h
    · rename_i bytes refusal hget
      split at h
      · exact nomatch h
      · rename_i hsize
        cases refusal with
        | some reason => exact nomatch h
        | none =>
          cases h
          exact ⟨bytes, hget, Nat.not_lt.1 hsize, rfl⟩
  · rintro ⟨bytes, hget, hsize, rfl⟩
    rw [hget]
    exact if_neg (Nat.not_lt.2 hsize)

end FileTree

/-! ## Fates -/

/-- What becomes of a target, and why. -/
inductive Fate where
  | timedOut (limit : Float)
  | skipped
  | unloadable (error : LoadError)
  | unreadable (error : Dockerfile.ReadError)
  | checked (diagnostics : List Diagnostic)

namespace Fate

/-- What is reported of a target. A failure is one error about the file as a whole. -/
def diagnostics (fate : Fate) (p : Path) : List Diagnostic :=
  let failure (ruleId message : Text) : Diagnostic :=
    { severity := .error, path := p.toText, line := 0, column := 0, ruleId, message }
  match fate with
  | .timedOut limit =>
    [failure "timeout"
      ("Run timed out after " ++ Decimal.generalText limit ++ "s before this file was checked")]
  | .skipped => []
  | .unloadable error => [failure "load-error" ("Cannot load file: " ++ error.reason)]
  | .unreadable error =>
    [failure "internal-error" ("Internal error while linting: " ++ error.message)]
  | .checked diagnostics => diagnostics

/-- The target was skipped. -/
def isSkipped : Fate → Bool
  | .skipped => true
  | _ => false

/-- The target was checked. -/
def isChecked : Fate → Bool
  | .checked _ => true
  | _ => false

/-- The target failed. -/
def isFailed : Fate → Bool
  | .timedOut _ | .unloadable _ | .unreadable _ => true
  | _ => false

/-- The outcome that a fate is. -/
def outcome : Fate → Outcome
  | .timedOut limit => .timedOut limit
  | .skipped => .skipped
  | .unloadable error => .failed loadErrorId ("Cannot load file: " ++ error.reason)
  | .unreadable error => .failed internalErrorId ("Internal error while linting: " ++ error.message)
  | .checked diagnostics => .checked diagnostics

theorem diagnostics_report? (fate : Fate) (p : Path) :
    (fate.outcome.report? p).toList.flatMap FileReport.diagnostics = fate.diagnostics p := by
  cases fate with
  | checked diagnostics => exact List.append_nil diagnostics
  | _ => rfl

theorem isChecked_report? (fate : Fate) (p : Path) :
    ((fate.outcome.report? p).map (!·.failed)).getD false = fate.isChecked := by
  cases fate <;> rfl

theorem isFailed_report? (fate : Fate) (p : Path) :
    ((fate.outcome.report? p).map (·.failed)).getD false = fate.isFailed := by
  cases fate <;> rfl

/-- **A target is checked, failed or skipped.** -/
theorem countP_add_countP (fate : Path → Fate) (targets : List Path) :
    targets.countP (fun p => (fate p).isChecked) + targets.countP (fun p => (fate p).isFailed)
      + targets.countP (fun p => (fate p).isSkipped) = targets.length := by
  induction targets with
  | nil => rfl
  | cons p targets ih =>
    rw [List.countP_cons, List.countP_cons, List.countP_cons, List.length_cons, ← ih]
    cases fate p <;> simp [isChecked, isFailed, isSkipped] <;> omega

end Fate

namespace Job

/-- **When a target meets a fate**, if some targets are pending in the end. -/
inductive Meets (job : Job) (pending : List Path) (p : Path) : Fate → Prop
  | timedOut {limit : Float} (hlate : p ∈ pending)
      (htimeout : job.settings.timeout = some limit) : job.Meets pending p (.timedOut limit)
  | skipped (hdone : p ∉ pending) (hname : p.kind? = none)
      (h : (∃ e, job.tree.Unloadable p job.settings.maxFileSize e) ∨
        ∃ lines, job.tree.Loads p job.settings.maxFileSize lines ∧
          Crontab.looksLikeCrontab (textOfLines lines) = false) : job.Meets pending p .skipped
  | unloadable {e : LoadError} (hdone : p ∉ pending) (hname : p.kind? ≠ none)
      (h : job.tree.Unloadable p job.settings.maxFileSize e) : job.Meets pending p (.unloadable e)
  | unreadable {lines : List Text} {kind : FileKind} {e : Dockerfile.ReadError}
      (hdone : p ∉ pending) (hload : job.tree.Loads p job.settings.maxFileSize lines)
      (hkind : detect? p (some (textOfLines lines)) = some kind)
      (h : Model.ofLines kind lines = .error e) : job.Meets pending p (.unreadable e)
  | checked {lines : List Text} {kind : FileKind} {diagnostics : List Diagnostic}
      (hdone : p ∉ pending) (hload : job.tree.Loads p job.settings.maxFileSize lines)
      (hkind : detect? p (some (textOfLines lines)) = some kind)
      (h : lintLines job.settings job.registry p.toText (some kind) lines = .ok diagnostics) :
      job.Meets pending p (.checked diagnostics)

/-- The fate of a target that is given all the time it needs. -/
def fateInTime (job : Job) (p : Path) : Fate :=
  match job.tree.load p job.settings.maxFileSize with
  | .error e => if p.kind?.isNone then .skipped else .unloadable e
  | .ok lines =>
    match detect? p (some (textOfLines lines)) with
    | none => .skipped
    | some kind =>
      match lintLines job.settings job.registry p.toText (some kind) lines with
      | .ok diagnostics => .checked diagnostics
      | .error e => .unreadable e

/-- The fate of a target that is late or is not. -/
def fate (job : Job) (late : Bool) (p : Path) : Fate :=
  match late, job.settings.timeout with
  | true, some limit => .timedOut limit
  | _, _ => job.fateInTime p

theorem outcome_fateInTime (job : Job) (p : Path) : (job.fateInTime p).outcome = job.check p := by
  unfold fateInTime check
  cases job.tree.load p job.settings.maxFileSize with
  | error e => cases h : p.kind?.isNone <;> rfl
  | ok lines =>
    dsimp only
    cases detect? p (some (textOfLines lines)) with
    | none => rfl
    | some kind =>
      dsimp only
      cases lintLines job.settings job.registry p.toText (some kind) lines <;> rfl

theorem outcome_fate (job : Job) (late : Bool) (p : Path) :
    (job.fate late p).outcome = job.outcome late p := by
  cases late with
  | false => exact outcome_fateInTime job p
  | true =>
    unfold fate outcome
    cases job.settings.timeout with
    | none => exact outcome_fateInTime job p
    | some limit => rfl

end Job

/-! ## Every target meets one fate -/

theorem detect?_eq_none_iff {p : Path} {content : Text} :
    detect? p (some content) = none ↔
      p.kind? = none ∧ Crontab.looksLikeCrontab content = false := by
  unfold detect?
  cases p.kind? with
  | some kind => simp
  | none => cases h : Crontab.looksLikeCrontab content <;> simp [h]

/-- Checking lines fails exactly where they cannot be read. -/
theorem lintLines_eq_error_iff {settings : Settings} {registry : Registry} {path : Text}
    {kind : FileKind} {lines : List Text} {e : Dockerfile.ReadError} :
    lintLines settings registry path (some kind) lines = .error e ↔
      Model.ofLines kind lines = .error e := by
  unfold lintLines
  dsimp only
  cases Model.ofLines kind lines with
  | error e' =>
    exact ⟨fun h => congrArg _ (Except.error.inj h), fun h => congrArg _ (Except.error.inj h)⟩
  | ok model => exact ⟨nofun, nofun⟩

namespace Job

variable {job : Job} {pending : List Path} {p : Path}

theorem meets_fateInTime (hdone : p ∉ pending) : job.Meets pending p (job.fateInTime p) := by
  unfold fateInTime
  split
  · rename_i e hload
    have hload := FileTree.load_eq_error_iff.1 hload
    split
    · rename_i hname
      exact .skipped hdone (Option.isNone_iff_eq_none.1 hname) (.inl ⟨e, hload⟩)
    · rename_i hname
      exact .unloadable hdone (mt Option.isNone_iff_eq_none.2 hname) hload
  · rename_i lines hload
    have hload := FileTree.load_eq_ok_iff.1 hload
    split
    · rename_i hkind
      obtain ⟨hname, hcontent⟩ := detect?_eq_none_iff.1 hkind
      exact .skipped hdone hname (.inr ⟨lines, hload, hcontent⟩)
    · rename_i kind hkind
      split
      · rename_i hlint
        exact .checked hdone hload hkind hlint
      · rename_i hlint
        exact .unreadable hdone hload hkind (lintLines_eq_error_iff.1 hlint)

theorem fate_of_late {limit : Float} (htimeout : job.settings.timeout = some limit) :
    job.fate true p = .timedOut limit := by
  unfold fate
  rw [htimeout]

/-- **Every target meets a fate**, if nothing is pending in a run without a limit. -/
theorem meets_fate (hwaits : job.settings.timeout = none → pending = []) (p : Path) :
    job.Meets pending p (job.fate (decide (p ∈ pending)) p) := by
  by_cases hp : p ∈ pending
  · cases htimeout : job.settings.timeout with
    | none => exact absurd hp (hwaits htimeout ▸ List.not_mem_nil)
    | some limit =>
      rw [decide_eq_true hp, fate_of_late htimeout]
      exact .timedOut hp htimeout
  · rw [decide_eq_false hp]
    exact meets_fateInTime hp

/-- **No target meets two fates.** -/
theorem Meets.eq_fate {f : Fate} (h : job.Meets pending p f) :
    f = job.fate (decide (p ∈ pending)) p := by
  have hintime : p ∉ pending → job.fate (decide (p ∈ pending)) p = job.fateInTime p := by
    intro hdone
    rw [decide_eq_false hdone]
    rfl
  cases h with
  | timedOut hlate htimeout => rw [decide_eq_true hlate, fate_of_late htimeout]
  | skipped hdone hname h =>
    rw [hintime hdone]
    unfold fateInTime
    rcases h with ⟨e, h⟩ | ⟨lines, hload, hcontent⟩
    · rw [FileTree.load_eq_error_iff.2 h, hname]
      rfl
    · rw [FileTree.load_eq_ok_iff.2 hload]
      dsimp only
      rw [detect?_eq_none_iff.2 ⟨hname, hcontent⟩]
  | unloadable hdone hname h =>
    rw [hintime hdone]
    unfold fateInTime
    rw [FileTree.load_eq_error_iff.2 h]
    exact (if_neg (mt Option.isNone_iff_eq_none.1 hname)).symm
  | unreadable hdone hload hkind h =>
    rw [hintime hdone]
    unfold fateInTime
    rw [FileTree.load_eq_ok_iff.2 hload]
    dsimp only
    rw [hkind]
    dsimp only
    rw [lintLines_eq_error_iff.2 h]
  | checked hdone hload hkind h =>
    rw [hintime hdone]
    unfold fateInTime
    rw [FileTree.load_eq_ok_iff.2 hload]
    dsimp only
    rw [hkind]
    dsimp only
    rw [h]

/-! ## Accounts -/

/-- A result that accounts for targets, of which some are pending in the end: each has one fate, and
what the result lists and counts is what the fates call for. -/
structure Accounts (job : Job) (pending targets : List Path) (result : LintResult)
    (fate : Path → Fate) : Prop where
  fates : ∀ p ∈ targets,
    job.Meets pending p (fate p) ∧ ∀ other, job.Meets pending p other → other = fate p
  diagnostics : result.diagnostics.Perm
    (job.warnings ++ targets.flatMap fun p => (fate p).diagnostics p)
  checked : result.filesChecked = targets.countP fun p => (fate p).isChecked
  failed : result.filesFailed = targets.countP fun p => (fate p).isFailed
  total : result.filesChecked + result.filesFailed
    = targets.length - targets.countP fun p => (fate p).isSkipped

/-- The order of the targets does not matter to accounts of them. -/
theorem Accounts.of_perm {targets targets' : List Path} {result : LintResult} {fate : Path → Fate}
    (h : job.Accounts pending targets result fate) (hperm : targets.Perm targets') :
    job.Accounts pending targets' result fate where
  fates p hp := h.fates p (hperm.mem_iff.2 hp)
  diagnostics := h.diagnostics.trans (.append_left _ (hperm.flatMap_right _))
  checked := h.checked.trans (hperm.countP_eq _)
  failed := h.failed.trans (hperm.countP_eq _)
  total := by rw [h.total, hperm.length_eq, hperm.countP_eq]

section

variable (job) (late : Path → Bool) (targets : List Path)

theorem report?_eq (p : Path) :
    job.report? (late p) p = (job.fate (late p) p).outcome.report? p := by
  rw [report?, outcome_fate]

theorem perm_diagnostics_runInOrder :
    (job.runInOrder late targets).diagnostics.Perm
      (job.warnings ++ targets.flatMap fun p => (job.fate (late p) p).diagnostics p) := by
  have hreports : (targets.filterMap fun p => job.report? (late p) p).flatMap
        FileReport.diagnostics
      = targets.flatMap fun p => (job.fate (late p) p).diagnostics p := by
    induction targets with
    | nil => rfl
    | cons p targets ih =>
      rw [List.flatMap_cons, ← ih, ← Fate.diagnostics_report?, ← report?_eq]
      cases h : job.report? (late p) p with
      | none => simp [h]
      | some r => simp [h]
  exact hreports ▸ job.perm_diagnostics_collect _

theorem filesChecked_runInOrder :
    (job.runInOrder late targets).filesChecked
      = targets.countP fun p => (job.fate (late p) p).isChecked := by
  rw [runInOrder, collect_eq_result, Collection.filesChecked_result, List.countP_filterMap]
  exact List.countP_congr fun p _ => by rw [report?_eq, Fate.isChecked_report?]

theorem filesFailed_runInOrder :
    (job.runInOrder late targets).filesFailed
      = targets.countP fun p => (job.fate (late p) p).isFailed := by
  rw [runInOrder, collect_eq_result, Collection.filesFailed_result, List.countP_filterMap]
  exact List.countP_congr fun p _ => by rw [report?_eq, Fate.isFailed_report?]

end

/-- **What a run makes of its targets accounts for them.** -/
theorem accounts_runInOrder (hwaits : job.settings.timeout = none → pending = [])
    (targets : List Path) :
    job.Accounts pending targets (job.runInOrder (fun p => decide (p ∈ pending)) targets)
      (fun p => job.fate (decide (p ∈ pending)) p) := by
  have hchecked := job.filesChecked_runInOrder (fun p => decide (p ∈ pending)) targets
  have hfailed := job.filesFailed_runInOrder (fun p => decide (p ∈ pending)) targets
  refine ⟨fun p _ => ⟨meets_fate hwaits p, fun _ h => h.eq_fate⟩,
    job.perm_diagnostics_runInOrder _ targets, hchecked, hfailed, ?_⟩
  have htotal := Fate.countP_add_countP (fun p => job.fate (decide (p ∈ pending)) p) targets
  omega

end Job

/-- **A run that comes to its end accounts for all its targets.** Runs take their course; and
whatever course one takes, it yields a result in which every target has exactly one fate. A target
that is never finished is pending in the end, and if the run waits long enough no others are but
those that no worker is left for. -/
theorem exists_accounts (job : Job) (paths : List Path) (hworkers : 0 < job.settings.workers)
    (hlimit : job.slow ≠ [] → job.settings.timeout.isSome = true) :
    job.Settled paths (job.course paths) ∧
      ∀ c, job.Possible paths c →
        (∃ result fate, job.Yields paths c result ∧
          job.Accounts c.pending (job.tree.discover paths) result fate) ∧
        (∀ p ∈ job.tree.discover paths, p.toText ∈ job.slow → p ∈ c.pending) ∧
        (job.Settled paths c →
          ∀ p ∈ job.tree.discover paths, (p ∈ c.pending ↔ job.late paths p = true)) := by
  have hsettled : job.Settled paths (job.course paths) := by
    refine job.settled_course paths fun htimeout => ⟨hworkers, fun p _ => ?_⟩
    have hslow : job.slow = [] := by
      by_contra hne
      have hsome := hlimit hne
      rw [htimeout] at hsome
      exact nomatch hsome
    rw [Job.isSlow, hslow]
    rfl
  refine ⟨hsettled, fun c hc => ⟨⟨_, _, ?_, (Job.accounts_runInOrder hc.waits _).of_perm hc.perm⟩,
    fun p hp hslow => hc.mem_pending_of_isSlow hp (List.contains_iff_mem.2 hslow),
    fun hsettled p hp => hsettled.mem_pending_iff hp⟩⟩
  rw [← hc.resultAt_eq]
  exact hc.yields

/-- A run in which all fates occur. -/
theorem exists_accounts_of_six_targets :
    let job : Job := {
      tree := .ofEntries ["w"]
        [("a.env", .file []), ("Dockerfile", .file [92]), ("notes", .file []),
          ("b.env", .file [] (some "Permission denied"))]
      settings := { timeout := some 10 }
      slow := ["slow.mk"] }
    let target (name : Text) : Path := ⟨0, [name]⟩
    let targets := List.map target
      ["a.env", "Dockerfile", "notes", "gone.mk", "b.env", "slow.mk"]
    ∃ result fate, job.perform targets (job.course targets) = .ok result ∧
      job.Accounts [target "slow.mk"] targets result fate ∧
      fate (target "a.env") = .checked [] ∧
      fate (target "Dockerfile") = .unreadable .noKeyword ∧
      fate (target "notes") = .skipped ∧
      fate (target "gone.mk") = .unloadable .notFound ∧
      fate (target "b.env") = .unloadable (.refused "Permission denied") ∧
      fate (target "slow.mk") = .timedOut 10 := by
  intro job target targets
  have hdiscover : job.tree.discover targets = targets := by decide +kernel
  have hpending : (job.course targets).pending = [target "slow.mk"] := by decide +kernel
  obtain ⟨hsettled, haccounts⟩ := exists_accounts job targets (by decide) fun _ => rfl
  obtain ⟨⟨result, fate, hyields, haccounts⟩, -⟩ := haccounts _ hsettled.possible
  rw [hdiscover, hpending] at haccounts
  have hfate : ∀ name, target name ∈ targets → ∀ f, job.Meets [target "slow.mk"] (target name) f →
      fate (target name) = f :=
    fun name hname f h => ((haccounts.fates _ hname).2 f h).symm
  have henv : detect? (target "a.env") (some (textOfLines (linesOfBytes []))) = some .env := by
    decide +kernel
  have hdockerfile : detect? (target "Dockerfile") (some (textOfLines (linesOfBytes [92])))
      = some .dockerfile := by
    decide +kernel
  have hescape : Model.ofLines .dockerfile (linesOfBytes [92]) = .error .noKeyword := by rfl
  refine ⟨result, fate, hyields.ok (Job.canEnd_of_canWait rfl (by decide +kernel)), haccounts,
    hfate "a.env" (by decide) _ ?_, hfate "Dockerfile" (by decide) _ ?_,
    hfate "notes" (by decide) _ ?_, hfate "gone.mk" (by decide) _ ?_,
    hfate "b.env" (by decide) _ ?_, hfate "slow.mk" (by decide) _ ?_⟩
  · exact .checked (by decide) ⟨[], rfl, by decide, rfl⟩ henv (by decide +kernel)
  · exact .unreadable (by decide) ⟨[92], rfl, by decide, rfl⟩ hdockerfile hescape
  · exact .skipped (by decide) (by decide +kernel)
      (.inr ⟨_, ⟨[], rfl, by decide, rfl⟩, by decide +kernel⟩)
  · exact .unloadable (by decide) (by decide +kernel) (.missing rfl)
  · have hget : job.tree.get? (target "b.env") = some (.file [] (some "Permission denied")) := rfl
    exact .unloadable (by decide) (by decide +kernel) (.refused hget (Nat.zero_le _))
  · exact .timedOut (by decide) rfl

/-- With a limit of 10¹⁰ seconds, a run that has to wait has no result. -/
theorem not_exists_accounts_of_long_limit :
    let job : Job := {
      tree := .ofEntries ["w"] [("a.env", .file (List.replicate 500000 [35, 10]).flatten)]
      settings := { timeout := some 10000000000 } }
    let paths : List Path := [⟨0, ["a.env"]⟩]
    0 < job.settings.workers ∧ (job.slow ≠ [] → job.settings.timeout.isSome = true) ∧
      ∃ c, job.Settled paths c ∧ ¬ ∃ result fate, job.perform paths c = .ok result ∧
        job.Accounts c.pending (job.tree.discover paths) result fate := by
  intro job paths
  have htargets : job.tree.discover paths = [⟨0, ["a.env"]⟩] := by decide +kernel
  obtain ⟨hsettled, herror⟩ := job.perform_course_eq_error htargets rfl (by decide +kernel)
  refine ⟨by decide, fun h => absurd rfl h, _, hsettled, ?_⟩
  rintro ⟨result, fate, hresult, -⟩
  exact nomatch herror.symm.trans hresult

end OpsLint
