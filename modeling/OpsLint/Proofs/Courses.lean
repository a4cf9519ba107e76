import Mathlib.Logic.Relation
import OpsLint.Proofs.Collection
import OpsLint.Proofs.Discovery

/-!
# Courses of a run

A pool goes from step to step, and nobody decides which: a free worker takes up the target that has
waited longest, and any target that is being worked on may be the next to be finished, unless it is
an endless one. A course is **possible** for a run if such steps lead to what the run sees of its
targets (`Job.Possible`). It is **settled** if the run stops waiting no sooner than all has been
done that can be done (`Job.Settled`); it then has waited for all targets but those that no time
would be enough for.

Which these are can be told beforehand. They are the endless targets, and those that stand behind as
many endless ones as there are workers: nobody is left to take them up (`Pool.late`). So all settled
courses of a run come to the same targets done and the same pending, in some order
(`Job.Settled.mem_pending_iff`).

A run that takes a possible course **yields** what it makes of the targets done and pending, unless
it has to wait for longer than can be waited for (`Job.Yields`). The order in which it looks at the
targets does not matter to that, since no two of them are written the same.
-/

namespace OpsLint

namespace Pool

/-! ## Steps -/

/-- One step of a pool: a free worker takes up a target, or one finishes a target that ends. -/
inductive Step (workers : Nat) (endless : Path → Bool) : Pool → Pool → Prop
  | start (p : Path) (waiting running finished : List Path) (hfree : running.length < workers) :
      Step workers endless ⟨p :: waiting, running, finished⟩ ⟨waiting, p :: running, finished⟩
  | finish (p : Path) (waiting before after finished : List Path) (hends : endless p = false) :
      Step workers endless ⟨waiting, before ++ p :: after, finished⟩
        ⟨waiting, before ++ after, p :: finished⟩

/-- Any number of steps. -/
def Reaches (workers : Nat) (endless : Path → Bool) : Pool → Pool → Prop :=
  Relation.ReflTransGen (Step workers endless)

/-- No further step is possible. -/
def Rests (workers : Nat) (endless : Path → Bool) (pool : Pool) : Prop :=
  ∀ next, ¬ Step workers endless pool next

section

variable {workers : Nat} {endless : Path → Bool} {targets : List Path} {pool next : Pool}

/-- **A step neither loses a target nor adds one.** -/
theorem Step.perm (h : Step workers endless pool next) :
    (next.finished ++ next.unfinished).Perm (pool.finished ++ pool.unfinished) := by
  cases h with
  | start p waiting running finished hfree =>
    exact List.Perm.append_left finished List.perm_middle
  | finish p waiting before after finished hends =>
    have hmove : (p :: (waiting ++ (before ++ after))).Perm (waiting ++ (before ++ p :: after)) :=
      (List.perm_middle.symm).trans (List.Perm.append_left waiting List.perm_middle.symm)
    exact (List.perm_middle.symm).trans (List.Perm.append_left finished hmove)

/-- **At all times the finished and the unfinished targets are the targets of the run.** -/
theorem Reaches.perm (h : Reaches workers endless (start targets) pool) :
    (pool.finished ++ pool.unfinished).Perm targets := by
  induction h with
  | refl => exact List.Perm.of_eq (List.append_nil targets)
  | tail _ hstep ih => exact hstep.perm.trans ih

/-- A pool rests if all that is being worked on is endless, and whoever waits finds no worker. -/
theorem rests_iff :
    pool.Rests workers endless ↔
      (∀ p ∈ pool.running, endless p = true) ∧
        (pool.waiting = [] ∨ workers ≤ pool.running.length) := by
  obtain ⟨waiting, running, finished⟩ := pool
  constructor
  · intro hrests
    constructor
    · intro p hp
      by_contra hends
      obtain ⟨before, after, hrunning⟩ := List.append_of_mem hp
      dsimp only at hrunning
      subst hrunning
      exact hrests _ (.finish p waiting before after finished (eq_false_of_ne_true hends))
    · cases waiting with
      | nil => exact .inl rfl
      | cons p waiting => exact .inr (Nat.not_lt.1 fun hfree => hrests _ (.start p _ _ _ hfree))
  · rintro ⟨hendless, hbusy⟩ next hstep
    cases hstep with
    | start p waiting running finished hfree =>
      rcases hbusy with hnil | hbusy
      · exact nomatch hnil
      · exact Nat.not_lt.2 hbusy hfree
    | finish p waiting before after finished hends =>
      rw [hendless p (List.mem_append_right before List.mem_cons_self)] at hends
      exact nomatch hends

/-- The workers can do all that they can one target after another. -/
theorem reaches_settle (workers : Nat) (endless : Path → Bool)
    (waiting running finished : List Path) :
    Reaches workers endless ⟨waiting, running, finished⟩
      (settle workers endless waiting running finished) := by
  fun_induction settle workers endless waiting running finished with
  | case1 => exact .refl
  | case2 => exact .refl
  | case3 p waiting running finished hfree hendless ih =>
    exact .head (.start p waiting running finished (Nat.not_le.1 hfree)) ih
  | case4 p waiting running finished hfree hends ih =>
    exact .head (.start p waiting running finished (Nat.not_le.1 hfree))
      (.head (.finish p waiting [] running finished (eq_false_of_ne_true hends)) ih)

theorem rests_settle (workers : Nat) (endless : Path → Bool)
    (waiting running finished : List Path) (hrunning : ∀ p ∈ running, endless p = true) :
    (settle workers endless waiting running finished).Rests workers endless := by
  fun_induction settle workers endless waiting running finished with
  | case1 => exact rests_iff.2 ⟨hrunning, .inl rfl⟩
  | case2 p waiting running finished hbusy => exact rests_iff.2 ⟨hrunning, .inr hbusy⟩
  | case3 p waiting running finished hfree hendless ih =>
    exact ih (List.forall_mem_cons.2 ⟨hendless, hrunning⟩)
  | case4 p waiting running finished hfree hends ih => exact ih hrunning

end

/-! ## Late targets -/

/-- The targets that are taken up before a target. -/
def ahead (targets : List Path) (p : Path) : List Path := targets.takeWhile (· ≠ p)

theorem ahead_append_of_notMem {targets : List Path} {p : Path} (h : p ∉ targets)
    (more : List Path) : ahead (targets ++ more) p = targets ++ ahead more p :=
  List.takeWhile_append_of_pos fun _ hq => decide_eq_true fun hqp => h (hqp ▸ hq)

theorem ahead_append_of_mem {targets : List Path} {p : Path} (h : p ∈ targets)
    (more : List Path) : ahead (targets ++ more) p = ahead targets p := by
  unfold ahead
  induction targets with
  | nil => exact absurd h List.not_mem_nil
  | cons q targets ih =>
    rw [List.cons_append, List.takeWhile_cons, List.takeWhile_cons]
    by_cases hq : q = p
    · rw [if_neg (by simpa using hq), if_neg (by simpa using hq)]
    · rw [ih ((List.mem_cons.1 h).resolve_left (Ne.symm hq))]

/-- A target is not finished however long one waits: it is endless, or as many endless targets as
there are workers are taken up before it. -/
def late (workers : Nat) (endless : Path → Bool) (targets : List Path) (p : Path) : Bool :=
  endless p || workers ≤ (ahead targets p).countP endless

/-- If there are more workers than endless targets, no other target is late. -/
theorem late_of_countP_lt {workers : Nat} {endless : Path → Bool} {targets : List Path}
    (h : targets.countP endless < workers) (p : Path) :
    late workers endless targets p = endless p := by
  have hahead : (ahead targets p).countP endless ≤ targets.countP endless :=
    (List.takeWhile_sublist _).countP_le
  rw [late, decide_eq_false (by omega), Bool.or_false]

/-- The targets that have been taken up so far, in their order. Each of them found a worker that no
endless target kept. -/
structure Begun (workers : Nat) (endless : Path → Bool) (targets begun : List Path) (pool : Pool) :
    Prop where
  split : targets = begun ++ pool.waiting
  perm : begun.Perm (pool.running ++ pool.finished)
  ends : ∀ p ∈ pool.finished, endless p = false
  free : ∀ p ∈ begun, (ahead begun p).countP endless < workers

section

variable {workers : Nat} {endless : Path → Bool} {targets begun : List Path} {pool next : Pool}

/-- The endless targets among those taken up are still being worked on. -/
theorem Begun.countP_eq (h : Begun workers endless targets begun pool) :
    begun.countP endless = pool.running.countP endless := by
  have hfinished : pool.finished.countP endless = 0 :=
    List.countP_eq_zero.2 fun p hp => by rw [h.ends p hp]; exact Bool.false_ne_true
  rw [h.perm.countP_eq, List.countP_append, hfinished, Nat.add_zero]

/-- **Whoever is taken up finds a worker.** -/
theorem Step.exists_begun (hstep : Step workers endless pool next)
    (h : Begun workers endless targets begun pool) :
    ∃ begun, Begun workers endless targets begun next := by
  cases hstep with
  | start p waiting running finished hfree =>
    refine ⟨begun ++ [p], ?_, ?_, h.ends, fun q hq => ?_⟩
    · exact h.split.trans (List.append_cons begun p waiting)
    · exact (List.perm_append_singleton p begun).trans (h.perm.cons p)
    · by_cases hmem : q ∈ begun
      · rw [ahead_append_of_mem hmem]
        exact h.free q hmem
      · -- ahead of it are all that were taken up before, and those not finished have a worker each
        have hqp : q = p := List.mem_singleton.1 ((List.mem_append.1 hq).resolve_left hmem)
        have hself : ahead [p] p = [] := List.takeWhile_cons_of_neg (by simp)
        rw [ahead_append_of_notMem hmem, hqp, hself, List.append_nil, h.countP_eq]
        exact Nat.lt_of_le_of_lt List.countP_le_length hfree
  | finish p waiting before after finished hends =>
    refine ⟨begun, h.split, ?_, List.forall_mem_cons.2 ⟨hends, h.ends⟩, h.free⟩
    refine h.perm.trans ?_
    rw [List.append_assoc, List.append_assoc, List.cons_append]
    exact List.Perm.append_left before List.perm_middle.symm

theorem Reaches.exists_begun (h : Reaches workers endless (start targets) pool) :
    ∃ begun, Begun workers endless targets begun pool := by
  induction h with
  | refl => exact ⟨[], rfl, .refl _, nofun, nofun⟩
  | tail _ hstep ih =>
    obtain ⟨begun, hbegun⟩ := ih
    exact hstep.exists_begun hbegun

/-- **When the pool rests, the targets that are not finished are the late ones.** -/
theorem Reaches.mem_unfinished_iff (h : Reaches workers endless (start targets) pool)
    (hrests : pool.Rests workers endless) (hnodup : targets.Nodup) {p : Path} (hp : p ∈ targets) :
    p ∈ pool.unfinished ↔ late workers endless targets p = true := by
  obtain ⟨begun, hbegun⟩ := h.exists_begun
  obtain ⟨hendless, hbusy⟩ := rests_iff.1 hrests
  rw [late, Bool.or_eq_true, decide_eq_true_iff]
  constructor
  · intro hmem
    rcases List.mem_append.1 hmem with hwaiting | hrunning
    · right
      have hnot : p ∉ begun := fun hmem =>
        (List.nodup_append.1 (hbegun.split ▸ hnodup)).2.2 p hmem p hwaiting rfl
      have hworkers : workers ≤ pool.running.length :=
        hbusy.resolve_left (List.ne_nil_of_mem hwaiting)
      rw [hbegun.split, ahead_append_of_notMem hnot, List.countP_append, hbegun.countP_eq,
        List.countP_eq_length.2 hendless]
      omega
    · exact .inl (hendless p hrunning)
  · intro hlate
    by_contra hnot
    have hfinished : p ∈ pool.finished :=
      (List.mem_append.1 (h.perm.mem_iff.2 hp)).resolve_right hnot
    have hmem : p ∈ begun := hbegun.perm.mem_iff.2 (List.mem_append_right _ hfinished)
    have hfree := hbegun.free p hmem
    rw [hbegun.split, ahead_append_of_mem hmem, hbegun.ends p hfinished] at hlate
    exact hlate.elim nofun (Nat.not_le.2 hfree)

end

end Pool

/-! ## Possible and settled courses -/

namespace Job

/-- A run on some paths can take a course that ends with a given pool. Without a time limit it waits
until nothing is pending. -/
structure Follows (job : Job) (paths : List Path) (c : Course) (last : Pool) : Prop where
  toFirst : Pool.Reaches job.settings.workers job.isSlow (.start (job.tree.discover paths)) c.first
  toLast : Pool.Reaches job.settings.workers job.isSlow c.first last
  done : c.done.Perm last.finished
  pending : c.pending.Perm last.unfinished
  waits : job.settings.timeout = none → c.pending = []

/-- A course that a run on some paths can take. -/
def Possible (job : Job) (paths : List Path) (c : Course) : Prop := ∃ last, job.Follows paths c last

/-- A course in which the run stops waiting when there is nothing more to wait for. -/
def Settled (job : Job) (paths : List Path) (c : Course) : Prop :=
  ∃ last, job.Follows paths c last ∧ last.Rests job.settings.workers job.isSlow

/-- A target of a run is late. -/
def late (job : Job) (paths : List Path) : Path → Bool :=
  Pool.late job.settings.workers job.isSlow (job.tree.discover paths)

section

variable {job : Job} {paths : List Path} {c : Course}

theorem Settled.possible (h : job.Settled paths c) : job.Possible paths c :=
  h.imp fun _ hlast => hlast.1

theorem Follows.reaches {last : Pool} (h : job.Follows paths c last) :
    Pool.Reaches job.settings.workers job.isSlow (.start (job.tree.discover paths)) last :=
  h.toFirst.trans h.toLast

/-- **Every target is done or pending.** -/
theorem Possible.perm (h : job.Possible paths c) :
    (c.done ++ c.pending).Perm (job.tree.discover paths) := by
  obtain ⟨last, hlast⟩ := h
  exact (hlast.done.append hlast.pending).trans hlast.reaches.perm

/-- No target is both. -/
theorem Possible.disjoint (h : job.Possible paths c) : c.done.Disjoint c.pending :=
  List.disjoint_of_nodup_append (h.perm.nodup_iff.2 (FileTree.nodup_discover _ _))

theorem Possible.waits (h : job.Possible paths c) (htimeout : job.settings.timeout = none) :
    c.pending = [] := by
  obtain ⟨last, hlast⟩ := h
  exact hlast.waits htimeout

/-- An endless target is never done. -/
theorem Possible.mem_pending_of_isSlow (h : job.Possible paths c) {p : Path}
    (hp : p ∈ job.tree.discover paths) (hslow : job.isSlow p = true) : p ∈ c.pending := by
  refine (List.mem_append.1 (h.perm.mem_iff.2 hp)).resolve_left fun hdone => ?_
  obtain ⟨last, hlast⟩ := h
  obtain ⟨begun, hbegun⟩ := hlast.reaches.exists_begun
  rw [hbegun.ends p (hlast.done.mem_iff.1 hdone)] at hslow
  exact nomatch hslow

/-- **In a settled course the pending targets are the late ones.** -/
theorem Settled.mem_pending_iff (h : job.Settled paths c) {p : Path}
    (hp : p ∈ job.tree.discover paths) : p ∈ c.pending ↔ job.late paths p = true := by
  obtain ⟨last, hlast, hrests⟩ := h
  rw [hlast.pending.mem_iff]
  exact hlast.reaches.mem_unfinished_iff hrests (FileTree.nodup_discover _ _) hp

end

/-- **Runs take their course.** With a time limit there always is a settled course, and without one
there is if no target is endless. -/
theorem settled_course (job : Job) (paths : List Path)
    (hwaits : job.settings.timeout = none →
      0 < job.settings.workers ∧ ∀ p ∈ job.tree.discover paths, job.isSlow p = false) :
    job.Settled paths (job.course paths) := by
  have hreaches := Pool.reaches_settle job.settings.workers job.isSlow
    (job.tree.discover paths) [] []
  have hrests := Pool.rests_settle job.settings.workers job.isSlow
    (job.tree.discover paths) [] [] nofun
  refine ⟨_, ⟨.refl, hreaches, List.reverse_perm _, .refl _, fun htimeout => ?_⟩, hrests⟩
  obtain ⟨hworkers, hslow⟩ := hwaits htimeout
  refine List.eq_nil_iff_forall_not_mem.2 fun p hp => ?_
  have hmem : p ∈ job.tree.discover paths :=
    hreaches.perm.mem_iff.1 (List.mem_append_right _ hp)
  have hcount : (job.tree.discover paths).countP job.isSlow = 0 :=
    List.countP_eq_zero.2 fun p hp => by rw [hslow p hp]; exact Bool.false_ne_true
  have hlate := (hreaches.mem_unfinished_iff hrests (FileTree.nodup_discover _ _) hmem).1 hp
  rw [Pool.late_of_countP_lt (by omega), hslow p hmem] at hlate
  exact nomatch hlate

/-! ## What a run yields -/

/-- A run that takes a course comes to its end: nothing is left to wait for, or it can be waited
for. -/
def CanEnd (job : Job) (c : Course) : Prop :=
  c.first.unfinished = [] ∨ ∀ limit, job.settings.timeout = some limit → canWait limit = true

theorem canEnd_of_canWait {job : Job} {c : Course} {limit : Float}
    (htimeout : job.settings.timeout = some limit) (h : canWait limit = true) : job.CanEnd c :=
  .inr fun _ hlimit => Option.some.inj (htimeout.symm.trans hlimit) ▸ h

/-- A run that takes a course has a result if it comes to its end, and otherwise has none. -/
structure Yields (job : Job) (paths : List Path) (c : Course) (result : LintResult) : Prop where
  ok : job.CanEnd c → job.perform paths c = .ok result
  error : ¬ job.CanEnd c → job.perform paths c = .error .limitTooLong

/-- The result of a run on targets, of which some are late. -/
def runInOrder (job : Job) (late : Path → Bool) (targets : List Path) : LintResult :=
  job.collect (targets.filterMap fun p => job.report? (late p) p)

section

variable {job : Job} {paths : List Path} {c : Course}

theorem Possible.yields (h : job.Possible paths c) :
    job.Yields paths c (job.resultAt c.done c.pending) := by
  have hwait : (c.first.unfinished.isEmpty || job.settings.timeout.all canWait) = true ↔
      job.CanEnd c := by
    rw [Bool.or_eq_true, List.isEmpty_iff, Option.all_eq_true]
    rfl
  by_cases htargets : job.tree.discover paths = []
  · -- without a target there is nothing to wait for, and nothing to look at
    obtain ⟨hdone, hpending⟩ := List.append_eq_nil_iff.1 (htargets ▸ h.perm).eq_nil
    obtain ⟨last, hlast⟩ := h
    obtain ⟨-, hfirst⟩ := List.append_eq_nil_iff.1 (htargets ▸ hlast.toFirst.perm).eq_nil
    refine ⟨fun _ => ?_, fun hcannot => absurd (.inl hfirst) hcannot⟩
    rw [perform, htargets, hdone, hpending]
    rfl
  · have hne : ¬ (job.tree.discover paths).isEmpty = true := mt List.isEmpty_iff.1 htargets
    constructor
    · intro hcan
      rw [perform, if_neg hne, if_pos (hwait.2 hcan)]
    · intro hcannot
      rw [perform, if_neg hne, if_neg (mt hwait.1 hcannot)]

/-- A run makes of what is done and what is pending what it would make of the targets. -/
theorem Possible.resultAt_eq (h : job.Possible paths c) :
    job.resultAt c.done c.pending
      = job.runInOrder (fun p => decide (p ∈ c.pending)) (c.done ++ c.pending) := by
  unfold resultAt runInOrder
  rw [List.filterMap_append]
  refine congrArg job.collect (congrArg₂ _ ?_ ?_)
  · exact List.filterMap_congr fun p hp => by beta_reduce; rw [decide_eq_false (h.disjoint hp)]
  · exact List.filterMap_congr fun p hp => by beta_reduce; rw [decide_eq_true hp]

end

/-- The paths of the reports on targets, among the texts of the targets. -/
theorem map_path_sublist (job : Job) (late : Path → Bool) (targets : List Path) :
    ((targets.filterMap fun p => job.report? (late p) p).map FileReport.path).Sublist
      (targets.map Path.toText) := by
  induction targets with
  | nil => exact .slnil
  | cons p targets ih =>
    rw [List.filterMap_cons]
    split
    · exact ih.cons _
    · rename_i r hr
      rw [List.map_cons, List.map_cons, path_of_report hr]
      exact ih.cons_cons _

/-- Looking at targets in any order gives one result, if they are written differently. -/
theorem runInOrder_eq_of_perm (job : Job) (late : Path → Bool) {targets targets' : List Path}
    (hperm : targets.Perm targets') (htexts : (targets.map Path.toText).Nodup) :
    job.runInOrder late targets = job.runInOrder late targets' :=
  job.collect_eq_of_perm (hperm.filterMap _) (htexts.sublist (job.map_path_sublist late targets))

theorem runInOrder_congr (job : Job) {late late' : Path → Bool} {targets : List Path}
    (h : ∀ p ∈ targets, late p = late' p) :
    job.runInOrder late targets = job.runInOrder late' targets :=
  congrArg job.collect (List.filterMap_congr fun p hp => by rw [h p hp])

/-- **All settled courses of a run yield one result**, which the targets and the late ones among
them determine. -/
theorem Settled.yields {job : Job} {paths : List Path} {c : Course} (h : job.Settled paths c)
    (htexts : ((job.tree.discover paths).map Path.toText).Nodup) :
    job.Yields paths c (job.runInOrder (job.late paths) (job.tree.discover paths)) := by
  have hlate : ∀ p ∈ job.tree.discover paths, decide (p ∈ c.pending) = job.late paths p := by
    intro p hp
    rw [Bool.eq_iff_iff, decide_eq_true_iff]
    exact h.mem_pending_iff hp
  rw [← job.runInOrder_congr hlate,
    job.runInOrder_eq_of_perm _ h.possible.perm.symm htexts, ← h.possible.resultAt_eq]
  exact h.possible.yields

/-- **A time limit that cannot be waited for makes a run fail** that has anything to wait for. -/
theorem perform_course_eq_error (job : Job) {paths targets : List Path} {p : Path} {limit : Float}
    (htargets : job.tree.discover paths = p :: targets)
    (htimeout : job.settings.timeout = some limit) (hlong : canWait limit = false) :
    job.Settled paths (job.course paths) ∧
      job.perform paths (job.course paths) = .error .limitTooLong := by
  have hsettled := job.settled_course paths fun hnone => nomatch hnone.symm.trans htimeout
  refine ⟨hsettled, hsettled.possible.yields.error ?_⟩
  rintro (hfirst | hwait)
  · exact List.cons_ne_nil p targets (htargets ▸ (List.append_eq_nil_iff.1 hfirst).1)
  · exact nomatch hlong.symm.trans (hwait limit htimeout)

end Job

end OpsLint
