import OpsLint.Proofs.Courses

/-!
# Isolation of files

What is found in one file is found whatever stands in the others. Two trees **differ at** a path if
one is the other with the file at that path replaced (`FileTree.DifferAt`). In such trees the same
targets are discovered, since their shapes are the same, and the same are late; and every path that
leads to another file is loaded with the same outcome (`FileTree.DifferAt.load_eq`). So the reports
on these targets are the same, and the diagnostics in them are neither changed nor moved by the
others.

A path with double points is followed by way of the directories above, so that the argument goes
along the whole way and not only down the tree: at each place on it the two trees have the same
node, or two nodes that differ at what remains of the names (`Node.DifferBelow`).

One file can be a target twice, by a relative and an absolute path say. Its bytes are then the bytes
of both targets, and what is found under one spelling changes with what is found under the other
(`Job.filter_diagnostics_ne_of_two_spellings`).
-/

namespace OpsLint

/-! ## Trees that differ in a file -/

namespace Node

/-- Two nodes that differ only in one file, the one that the names lead to: in its bytes, or in
whether it can be read. -/
inductive DifferAt : List Text → Node → Node → Prop
  | file (bytes bytes' : List UInt8) (refusal refusal' : Option Text) :
      DifferAt [] (.file bytes refusal) (.file bytes' refusal')
  | dir {names : List Text} {node node' : Node} (before after : List (Text × Node)) {name : Text}
      (first : name ∉ before.map Prod.fst) (below : DifferAt names node node') :
      DifferAt (name :: names) (.dir (before ++ (name, node) :: after))
        (.dir (before ++ (name, node') :: after))

namespace DifferAt

theorem shape_eq {names : List Text} {node node' : Node} (h : DifferAt names node node') :
    node'.shape = node.shape := by
  induction h with
  | file bytes bytes' refusal refusal' => rw [shape, shape]
  | dir before after first below ih =>
    rw [shape, shape, shapeEntries_eq_map, shapeEntries_eq_map, List.map_append, List.map_append,
      List.map_cons, List.map_cons, ih]

theorem isDir_eq {names : List Text} {node node' : Node} (h : DifferAt names node node') :
    node'.isDir = node.isDir := by
  rw [← isDir_shape, h.shape_eq, isDir_shape]

theorem lookup_middle {before : List (Text × Node)} {name : Text}
    (first : name ∉ before.map Prod.fst) (node : Node) (after : List (Text × Node))
    (other : Text) :
    (before ++ (name, node) :: after).lookup other
      = if other = name then some node else (before ++ after).lookup other := by
  rw [List.lookup_append, List.lookup_append, List.lookup_cons]
  by_cases hother : other = name
  · have hnone : before.lookup other = none := by
      rw [List.lookup_eq_none_iff]
      intro e he
      rw [bne_iff_ne, hother]
      exact fun heq => first (heq ▸ List.mem_map_of_mem he)
    rw [if_pos hother, hnone, beq_iff_eq.2 hother]
    rfl
  · rw [if_neg hother, beq_eq_false_iff_ne.2 hother]

/-- Down the way to the file the nodes differ at the rest of the names. -/
theorem entry?_self {name : Text} {names : List Text} {node node' : Node}
    (h : DifferAt (name :: names) node node') :
    ∃ next next', node.entry? name = some next ∧ node'.entry? name = some next' ∧
      DifferAt names next next' := by
  cases h with
  | dir before after first below =>
    refine ⟨_, _, ?_, ?_, below⟩
    · exact (lookup_middle first _ after name).trans (if_pos rfl)
    · exact (lookup_middle first _ after name).trans (if_pos rfl)

/-- Off the way to the file there is no difference. -/
theorem entry?_of_ne {name other : Text} {names : List Text} {node node' : Node}
    (h : DifferAt (name :: names) node node') (hne : other ≠ name) :
    node'.entry? other = node.entry? other := by
  cases h with
  | dir before after first below =>
    exact (lookup_middle first _ after other).trans
      ((if_neg hne).trans ((lookup_middle first _ after other).trans (if_neg hne)).symm)

end DifferAt

/-- The nodes at one place of two trees that differ at `file`. The place is given by the names that
lead to it, last name first. -/
inductive DifferBelow (file place : List Text) (node node' : Node) : Prop
  | above (names : List Text) (rest : place.reverse ++ names = file)
      (differ : DifferAt names node node')
  | beside (off : ¬ place.reverse <+: file) (same : node' = node)

namespace DifferBelow

variable {file place : List Text} {node node' : Node}

theorem isDir_eq (h : DifferBelow file place node node') : node'.isDir = node.isDir := by
  cases h with
  | above names rest differ => exact differ.isDir_eq
  | beside off same => rw [same]

/-- An entry is in both nodes or in neither, and again stands at one place of the two trees. -/
theorem entry? (h : DifferBelow file place node node') (name : Text) :
    Option.Rel (DifferBelow file (name :: place)) (node.entry? name) (node'.entry? name) := by
  have hrefl : ∀ found : Option Node, ¬ (name :: place).reverse <+: file →
      Option.Rel (DifferBelow file (name :: place)) found found := by
    intro found hoff
    cases found with
    | none => exact .none
    | some next => exact .some (.beside hoff rfl)
  cases h with
  | above names rest differ =>
    cases names with
    | nil => cases differ; exact .none
    | cons first names =>
      by_cases hname : name = first
      · subst hname
        obtain ⟨next, next', hnext, hnext', hbelow⟩ := differ.entry?_self
        rw [hnext, hnext']
        refine .some (.above names ?_ hbelow)
        rw [List.reverse_cons, List.append_assoc, ← rest]
        rfl
      · -- off the way: from here on no place is on the way to the file
        rw [differ.entry?_of_ne hname]
        refine hrefl _ fun hprefix => hname ?_
        rw [List.reverse_cons, ← rest, List.prefix_append_right_inj] at hprefix
        exact (List.cons_prefix_cons.1 hprefix).1
  | beside off same =>
    rw [same]
    refine hrefl _ fun hprefix => off (.trans ?_ hprefix)
    rw [List.reverse_cons]
    exact List.prefix_append _ _

end DifferBelow

end Node

namespace FileTree

open Node

/-- The directories above one place of two trees that differ at `file`, the nearest first. -/
inductive DifferAlong (file : List Text) : List Text → List Node → List Node → Prop
  | root : DifferAlong file [] [] []
  | down {place : List Text} {node node' : Node} {above above' : List Node} {name : Text}
      (proper : name ≠ Path.up) (parent : DifferBelow file place node node')
      (rest : DifferAlong file place above above') :
      DifferAlong file (name :: place) (node :: above) (node' :: above')

/-- The same names lead to one place in both trees. -/
theorem follow_differBelow {file place : List Text} {above above' : List Node} {node node' : Node}
    (habove : DifferAlong file place above above') (hnode : DifferBelow file place node node')
    (names : List Text) :
    Option.Rel (DifferBelow file (names.foldl (Path.addNormal true) place))
      (follow above node names) (follow above' node' names) := by
  induction names generalizing place above above' node node' with
  | nil => exact .some hnode
  | cons name names ih =>
    rw [follow_cons, follow_cons, hnode.isDir_eq, List.foldl_cons]
    split
    · exact .none
    · by_cases hup : name = Path.up
      · rw [if_pos hup, if_pos hup]
        subst hup
        cases habove with
        -- above the root there is the root
        | root => exact ih .root hnode
        | @down place _ _ _ _ last hlast hparent rest =>
          have hback : Path.addNormal true (last :: place) Path.up = place := by
            unfold Path.addNormal
            rw [if_neg (not_not_intro rfl)]
            exact if_neg hlast
          rw [hback]
          exact ih rest hparent
      · rw [if_neg hup, if_neg hup]
        have hdown : Path.addNormal true place name = name :: place := if_pos hup
        rw [hdown]
        have hentry := hnode.entry? name
        generalize node.entry? name = found, node'.entry? name = found' at hentry
        cases hentry with
        | none => exact .none
        | some hnext => exact ih (.down hup hnode habove) hnext

/-- The names from the root on that a path amounts to. Without links, two paths with the same place
lead to the same file. -/
def place (t : FileTree) (p : Path) : List Text := (t.resolve p).names

/-- Two trees that differ only in the file at a path. -/
structure DifferAt (t : FileTree) (p : Path) (t' : FileTree) : Prop where
  home : t'.home = t.home
  root : Node.DifferAt (t.place p) t.root t'.root

theorem place_eq (t : FileTree) (p : Path) :
    t.place p = ((t.absolute p).foldl (Path.addNormal true) []).reverse := by
  have hrooted : decide ((if p.slashes = 0 then 1 else p.slashes) ≠ 0) = true := by
    rw [decide_eq_true_iff]
    split <;> omega
  unfold place resolve Path.normal
  rw [hrooted]

namespace DifferAt

variable {t t' : FileTree} {p : Path} (h : t.DifferAt p t')

include h

theorem shape_eq : t'.shape = t.shape := by
  unfold shape
  rw [h.home, h.root.shape_eq]

/-- The same targets are discovered. -/
theorem discover_eq (paths : List Path) : t'.discover paths = t.discover paths := by
  rw [← discover_shape, h.shape_eq, discover_shape]

/-- A path that does not lead to the changed file is loaded with the same outcome. -/
theorem load_eq {q : Path} (hq : t.place q ≠ t.place p) (limit : Nat) :
    t'.load q limit = t.load q limit := by
  have habsolute : t'.absolute q = t.absolute q := by
    unfold absolute
    rw [h.home]
  have hfollow := follow_differBelow .root (.above _ rfl h.root) (t.absolute q)
  unfold load get?
  rw [habsolute]
  generalize follow [] t.root (t.absolute q) = found,
    follow [] t'.root (t.absolute q) = found' at hfollow
  cases hfollow with
  | none => rfl
  | some hnode =>
    cases hnode with
    | above names rest differ =>
      cases differ with
      -- only the changed file itself can be a different one, and its place is that of `p`
      | file bytes bytes' refusal refusal' =>
        rw [List.append_nil, ← place_eq] at rest
        exact absurd rest hq
      | dir before after first below => rfl
    | beside off same => rw [same]

end DifferAt

end FileTree

/-! ## Runs on trees that differ in a file -/

namespace Job

/-- A diagnostic is about a target that leads to the same file as a path. -/
def concerns (job : Job) (paths : List Path) (p : Path) (d : Diagnostic) : Bool :=
  (job.tree.discover paths).any
    (fun q => job.tree.place q = job.tree.place p && q.toText = d.path)

/-- A run sees of a target what is loaded. -/
theorem report?_of_load_eq {job : Job} {tree' : FileTree} {q : Path}
    (h : tree'.load q job.settings.maxFileSize = job.tree.load q job.settings.maxFileSize)
    (late : Bool) : report? { job with tree := tree' } late q = job.report? late q := by
  unfold report? outcome check
  rw [h]

section

variable (job : Job) {p : Path} {tree' : FileTree} (hdiffer : job.tree.DifferAt p tree')

include hdiffer

/-- The reports on the targets that do not lead to the changed file are the same. -/
theorem filter_reports_eq (late : Path → Bool) (targets : List Path) (among : Text → Bool)
    (hamong : ∀ q ∈ targets, job.tree.place q = job.tree.place p → among q.toText = false) :
    (targets.filterMap fun q => report? { job with tree := tree' } (late q) q).filter
        (fun r => among r.path)
      = (targets.filterMap fun q => job.report? (late q) q).filter (fun r => among r.path) := by
  rw [List.filter_filterMap, List.filter_filterMap]
  refine List.filterMap_congr fun q hq => ?_
  by_cases hplace : job.tree.place q = job.tree.place p
  · -- whatever is reported on such a target is left out on both sides
    have hnone : ∀ outcome : Outcome,
        (outcome.report? q).filter (fun r => among r.path) = none := by
      intro outcome
      rw [Option.filter_eq_none_iff]
      intro r hr
      rw [path_of_report hr, hamong q hq hplace]
      exact Bool.false_ne_true
    exact (hnone _).trans (hnone _).symm
  · rw [report?_of_load_eq (hdiffer.load_eq hplace _)]

/-- What is seen of two results through paths that leave out the changed file is the same. -/
theorem filter_diagnostics_eq (late : Path → Bool) (targets : List Path) (among : Text → Bool)
    (hamong : ∀ q ∈ targets, job.tree.place q = job.tree.place p → among q.toText = false) :
    (runInOrder { job with tree := tree' } late targets).diagnostics.filter
        (fun d => among d.path)
      = (job.runInOrder late targets).diagnostics.filter (fun d => among d.path) := by
  have hown : ∀ job : Job, ∀ r ∈ targets.filterMap fun q => job.report? (late q) q,
      ∀ d ∈ r.diagnostics, d.path = r.path := by
    intro job r hr d hd
    obtain ⟨q, -, hq⟩ := List.mem_filterMap.1 hr
    exact path_of_mem_report hq hd
  unfold runInOrder
  rw [filter_collect _ _ among (hown _), filter_collect _ _ among (hown _),
    filter_reports_eq job hdiffer late targets among hamong]
  rfl

/-- **One file never influences the findings of another.** Let runs on two trees that differ in one
file take settled courses. Among what they yield, the diagnostics that are not about a target that
leads to the changed file are the same, one by one and in the same order. If the file is only one
target, these are the diagnostics with another path than this target's. -/
theorem exists_yields_of_differAt (htree : job.tree.WellFormed) (given : List Text) (c c' : Course)
    (hc : job.Settled (given.map Path.ofText) c)
    (hc' : Settled { job with tree := tree' } (given.map Path.ofText) c') :
    ∃ result result', job.Yields (given.map Path.ofText) c result ∧
      Yields { job with tree := tree' } (given.map Path.ofText) c' result' ∧
      result'.diagnostics.filter (!job.concerns (given.map Path.ofText) p ·)
        = result.diagnostics.filter (!job.concerns (given.map Path.ofText) p ·) ∧
      ((∀ q ∈ job.tree.discover (given.map Path.ofText),
          job.tree.place q = job.tree.place p → q = p) →
        result'.diagnostics.filter (·.path ≠ p.toText)
          = result.diagnostics.filter (·.path ≠ p.toText)) := by
  have htexts := FileTree.nodup_map_toText_discover htree given
  have htargets := hdiffer.discover_eq (given.map Path.ofText)
  have hlate : late { job with tree := tree' } (given.map Path.ofText)
      = job.late (given.map Path.ofText) := by
    unfold late
    rw [htargets]
    rfl
  have hyields' := hc'.yields (by rwa [htargets])
  rw [htargets, hlate] at hyields'
  refine ⟨_, _, hc.yields htexts, hyields', ?_, fun halone => ?_⟩
  · refine filter_diagnostics_eq job hdiffer _ _
      (fun text => !(job.tree.discover (given.map Path.ofText)).any
        (fun q => job.tree.place q = job.tree.place p && q.toText = text)) fun q hq hplace => ?_
    rw [Bool.not_eq_false', List.any_eq_true]
    exact ⟨q, hq, by rw [hplace, decide_eq_true rfl, decide_eq_true rfl]; rfl⟩
  · refine filter_diagnostics_eq job hdiffer _ _ (· ≠ p.toText) fun q hq hplace => ?_
    rw [halone q hq hplace]
    exact decide_eq_false (not_not_intro rfl)

end

/-- Of two files with settings, one of them in a directory, the other becomes one that no line of
which can be read. -/
theorem exists_yields_of_differAt_first :
    let tree (bytes : List UInt8) : FileTree := .ofEntries ["w"]
      [("a.env", .file bytes), ("d", .dir [("b.env", .file "B=1\nB=2\n".toUTF8.toList)])]
    let job : Job := { tree := tree "A=1\n".toUTF8.toList }
    let job' : Job := { tree := tree [0xff, 0x0a] }
    let paths := List.map Path.ofText ["d", "a.env"]
    ∃ result result', job.perform paths (job.course paths) = .ok result ∧
      job'.perform paths (job'.course paths) = .ok result' ∧
      result'.diagnostics.filter (·.path ≠ "a.env".toList)
        = result.diagnostics.filter (·.path ≠ "a.env".toList) := by
  intro tree job job' paths
  have hdiffer : job.tree.DifferAt ⟨0, ["a.env"]⟩ job'.tree := by
    refine ⟨rfl, ?_⟩
    have hplace : job.tree.place ⟨0, ["a.env"]⟩ = ["w", "a.env"] := by decide +kernel
    rw [hplace]
    exact .dir [] [] List.not_mem_nil (.dir [] _ List.not_mem_nil (.file _ _ _ _))
  have htargets : job.tree.discover paths = [⟨0, ["d", "b.env"]⟩, ⟨0, ["a.env"]⟩] := by
    decide +kernel
  obtain ⟨result, result', hyields, hyields', -, hothers⟩ := exists_yields_of_differAt job hdiffer
    (by decide +kernel) ["d", "a.env"] _ _ (settled_course job paths nofun)
    (settled_course job' paths nofun)
  refine ⟨result, result', hyields.ok ?_, hyields'.ok ?_, hothers ?_⟩
  · exact canEnd_of_canWait rfl (by decide +kernel)
  · exact canEnd_of_canWait rfl (by decide +kernel)
  · rw [show job.tree.discover (List.map Path.ofText ["d", "a.env"]) = _ from htargets]
    decide +kernel

/-- A file that is a target under two spellings becomes a crontab, and something is found under the
second. -/
theorem filter_diagnostics_ne_of_two_spellings :
    let tree (bytes : List UInt8) : FileTree := .ofEntries ["w"] [("jobs", .file bytes)]
    let job : Job := { tree := tree "notes\n".toUTF8.toList }
    let job' : Job := { tree := tree "* * * * * x\n".toUTF8.toList }
    let paths := List.map Path.ofText ["jobs", "/w/jobs"]
    job.tree.DifferAt ⟨0, ["jobs"]⟩ job'.tree ∧
      ∃ c c' result result', job.Settled paths c ∧ job.perform paths c = .ok result ∧
        job'.Settled paths c' ∧ job'.perform paths c' = .ok result' ∧
        result'.diagnostics.filter (·.path ≠ "jobs".toList)
          ≠ result.diagnostics.filter (·.path ≠ "jobs".toList) := by
  intro tree job job' paths
  have hdiffer : job.tree.DifferAt ⟨0, ["jobs"]⟩ job'.tree := by
    refine ⟨rfl, ?_⟩
    have hplace : job.tree.place ⟨0, ["jobs"]⟩ = ["w", "jobs"] := by decide +kernel
    rw [hplace]
    exact .dir [] [] List.not_mem_nil (.dir [] [] List.not_mem_nil (.file _ _ _ _))
  have hwait : canWait 30.0 = true := by decide +kernel
  have hc := settled_course job paths nofun
  have hc' := settled_course job' paths nofun
  refine ⟨hdiffer, _, _, _, _, hc, hc.possible.yields.ok (canEnd_of_canWait rfl hwait), hc',
    hc'.possible.yields.ok (canEnd_of_canWait rfl hwait), fun heq => ?_⟩
  -- nothing is found in the first, and one thing under the second spelling in the second
  have hlength := congrArg List.length heq
  unfold resultAt at hlength
  rw [← List.countP_eq_length_filter, ← List.countP_eq_length_filter,
    (perm_diagnostics_collect _ _).countP_eq, (perm_diagnostics_collect _ _).countP_eq] at hlength
  exact absurd hlength (by decide +kernel)

end Job

end OpsLint
