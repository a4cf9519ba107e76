import OpsLint.Proofs.Aggregation
import OpsLint.Proofs.Courses

/-!
# Schedules

How many workers there are, in which order they finish targets, in which order a run looks at what
is finished and what is not, and in which order and how often its paths are given: none of this can
be seen in the result, **as long as the same targets are late**. That is so if the workers and the
list of paths are the same, and also whenever there are more workers than endless targets.

It is not so in general. With one worker a target that comes after an endless one is late, and with
two it is not (`yields_ne_of_one_worker`).
-/

namespace OpsLint

namespace Job

/-- The same job with another number of workers. -/
def withWorkers (job : Job) (workers : Nat) : Job := { job with settings.workers := workers }

/-- What a job makes of targets does not depend on the workers. -/
theorem runInOrder_withWorkers (job : Job) (workers : Nat) :
    (job.withWorkers workers).runInOrder = job.runInOrder := rfl

/-- **The schedule of a run cannot be seen in its result** but by the targets that are late. Let a
tree be one that a file system can hold, and let no path that is given have a double point in it.
Two runs with any numbers of workers, on lists of the same paths in whatever order and with whatever
repetitions, that take any settled courses, yield the same if the same targets are late in both; in
particular if both have more workers than there are endless targets. -/
theorem exists_yields_of_late_eq (job : Job) (htree : job.tree.WellFormed)
    (given given' : List Text) (hup : ∀ s ∈ given, Path.up ∉ (Path.ofText s).names)
    (hsame : ∀ s, s ∈ given' ↔ s ∈ given) (workers workers' : Nat) (c c' : Course)
    (hc : (job.withWorkers workers).Settled (given.map Path.ofText) c)
    (hc' : (job.withWorkers workers').Settled (given'.map Path.ofText) c')
    (hlate : (∀ p ∈ job.tree.discover (given.map Path.ofText),
        (job.withWorkers workers).late (given.map Path.ofText) p
          = (job.withWorkers workers').late (given'.map Path.ofText) p) ∨
      ((job.tree.discover (given.map Path.ofText)).countP job.isSlow < workers ∧
        (job.tree.discover (given.map Path.ofText)).countP job.isSlow < workers')) :
    ∃ result, (job.withWorkers workers).Yields (given.map Path.ofText) c result ∧
      (job.withWorkers workers').Yields (given'.map Path.ofText) c' result := by
  have hgiven : ∀ p ∈ given.map Path.ofText, Path.up ∉ p.names := by
    intro p hp
    obtain ⟨s, hs, rfl⟩ := List.mem_map.1 hp
    exact hup s hs
  have hgiven' : ∀ p, p ∈ given'.map Path.ofText ↔ p ∈ given.map Path.ofText := by
    intro p
    rw [List.mem_map, List.mem_map]
    exact exists_congr fun s => and_congr_left' (hsame s)
  have hperm := FileTree.discover_perm htree hgiven hgiven'
  have htexts := FileTree.nodup_map_toText_discover htree given
  have htexts' := FileTree.nodup_map_toText_discover htree given'
  -- with workers to spare, the late targets are the endless ones in both runs
  have hlate : ∀ p ∈ job.tree.discover (given.map Path.ofText),
      (job.withWorkers workers).late (given.map Path.ofText) p
        = (job.withWorkers workers').late (given'.map Path.ofText) p := by
    refine hlate.elim id fun hspare p _ => ?_
    have hspare' := hspare.2
    rw [← hperm.countP_eq] at hspare'
    exact (Pool.late_of_countP_lt hspare.1 p).trans (Pool.late_of_countP_lt hspare' p).symm
  refine ⟨_, hc.yields htexts, ?_⟩
  have hyields := hc'.yields htexts'
  rw [runInOrder_withWorkers] at hyields ⊢
  have hresult : job.runInOrder ((job.withWorkers workers').late (given'.map Path.ofText))
        (job.tree.discover (given'.map Path.ofText))
      = job.runInOrder ((job.withWorkers workers).late (given.map Path.ofText))
        (job.tree.discover (given.map Path.ofText)) :=
    (job.runInOrder_eq_of_perm _ hperm htexts').trans (job.runInOrder_congr hlate).symm
  exact hresult ▸ hyields

/-- Two workers that do one thing after another and three that do not, one makefile that is never
finished, and paths in another order and with a repetition. -/
theorem exists_yields_of_two_and_three_workers :
    let job : Job := {
      tree := .ofEntries ["w"]
        [("a.env", .file []), ("b.env", .file []), ("d", .dir [("Makefile", .file [])])]
      settings := { timeout := some 10 }
      slow := ["d/Makefile"] }
    let a : Path := ⟨0, ["a.env"]⟩
    let b : Path := ⟨0, ["b.env"]⟩
    let slow : Path := ⟨0, ["d", "Makefile"]⟩
    let c : Course :=
      { first := ⟨[b], [a, slow], []⟩, done := [a, b], pending := [slow] }
    let c' : Course :=
      { first := ⟨[], [slow, a, b], []⟩, done := [b, a], pending := [slow] }
    ∃ result,
      (job.withWorkers 2).perform (List.map Path.ofText ["d", "a.env", "b.env"]) c = .ok result ∧
      (job.withWorkers 3).perform (List.map Path.ofText ["b.env", "a.env", "b.env", "d"]) c'
        = .ok result := by
  intro job a b slow c c'
  have htargets : job.tree.discover (List.map Path.ofText ["d", "a.env", "b.env"])
      = [slow, a, b] := by decide +kernel
  have htargets' : job.tree.discover (List.map Path.ofText ["b.env", "a.env", "b.env", "d"])
      = [b, a, slow] := by decide +kernel
  have hcan : ∀ workers (c : Course), (job.withWorkers workers).CanEnd c :=
    fun _ _ => canEnd_of_canWait rfl (by decide +kernel)
  have hc : (job.withWorkers 2).Settled (List.map Path.ofText ["d", "a.env", "b.env"]) c := by
    refine ⟨⟨[], [slow], [b, a]⟩, ⟨?_, ?_, .swap b a [], .refl _, nofun⟩, Pool.rests_iff.2 ?_⟩
    · show Pool.Reaches _ _ (.start (job.tree.discover _)) _
      rw [htargets]
      exact .head (.start _ _ _ _ (by decide)) (.single (.start _ _ _ _ (by decide)))
    · refine .head (.finish a [b] [] [slow] [] (by decide +kernel)) (.head (.start b [] _ _ ?_) ?_)
      · decide
      · exact .single (.finish b [] [] [slow] [a] (by decide +kernel))
    · decide +kernel
  have hc' : (job.withWorkers 3).Settled
      (List.map Path.ofText ["b.env", "a.env", "b.env", "d"]) c' := by
    refine ⟨⟨[], [slow], [a, b]⟩, ⟨?_, ?_, .swap a b [], .refl _, nofun⟩, Pool.rests_iff.2 ?_⟩
    · show Pool.Reaches _ _ (.start (job.tree.discover _)) _
      rw [htargets']
      exact .head (.start _ _ _ _ (by decide)) (.head (.start _ _ _ _ (by decide))
        (.single (.start _ _ _ _ (by decide))))
    · exact .head (.finish b [] [slow, a] [] [] (by decide +kernel))
        (.single (.finish a [] [slow] [] [b] (by decide +kernel)))
    · decide +kernel
  obtain ⟨result, hyields, hyields'⟩ := exists_yields_of_late_eq job (by decide +kernel) _ _
    (by decide +kernel) (fun s => by grind) 2 3 c c' hc hc'
    (.inr (by rw [htargets]; decide +kernel))
  exact ⟨result, hyields.ok (hcan 2 c), hyields'.ok (hcan 3 c')⟩

/-- One worker never comes to the file behind a makefile that is never finished, and the run fails
as a whole; with two workers the file is checked and the run ends well. -/
theorem yields_ne_of_one_worker :
    let job : Job := {
      tree := .ofEntries ["w"] [("a.env", .file "A=1\n".toUTF8.toList), ("slow.mk", .file [])]
      settings := { timeout := some 0.5 }
      slow := ["slow.mk"] }
    let paths := List.map Path.ofText ["slow.mk", "a.env"]
    ∃ c c' result result',
      (job.withWorkers 1).Settled paths c ∧ (job.withWorkers 1).perform paths c = .ok result ∧
      (job.withWorkers 2).Settled paths c' ∧ (job.withWorkers 2).perform paths c' = .ok result' ∧
      result.filesFailed = 2 ∧ result.status = .fatal ∧
      result'.filesFailed = 1 ∧ result'.filesChecked = 1 ∧ result'.status ≠ .fatal := by
  intro job paths
  have hsettled : ∀ workers, (job.withWorkers workers).Settled paths
      ((job.withWorkers workers).course paths) := fun workers => settled_course _ _ nofun
  have hyields := (hsettled 1).possible.yields
  have hyields' := (hsettled 2).possible.yields
  have hcan : ∀ workers (c : Course), (job.withWorkers workers).CanEnd c :=
    fun _ _ => canEnd_of_canWait rfl (by decide +kernel)
  refine ⟨_, _, _, _, hsettled 1, hyields.ok (hcan 1 _), hsettled 2, hyields'.ok (hcan 2 _), ?_⟩
  unfold resultAt
  rw [collect_eq_result, collect_eq_result, Collection.filesFailed_result,
    Collection.filesFailed_result, Collection.filesChecked_result, ne_eq, Collection.fatal_iff,
    Collection.fatal_iff]
  refine ⟨by decide +kernel, by decide +kernel, by decide +kernel, by decide +kernel, ?_⟩
  decide +kernel

end Job

end OpsLint
