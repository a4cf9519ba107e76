import Mathlib.Data.List.Nodup
import OpsLint.Files.Discover
import OpsLint.Proofs.FileTree

/-!
# Discovery

The targets of a run are listed in an order that depends on the order of the paths it was given, and
which of them are listed depends on the shape of the tree (`FileTree.discover_shape`). Each is
listed once, and no two are written the same (`FileTree.nodup_map_toText_discover`).

Where no path has a double point in it, the targets are **as a set** the targets of the paths one by
one (`FileTree.mem_discover`). Then neither the order of the paths nor a repetition among them makes
a difference but to the order (`FileTree.discover_perm`). With double points it can: of two paths to
one target the first is kept, and the two are written differently.
-/

namespace OpsLint

/-! ## Keeping the first of each kind -/

section

variable {α κ : Type} [BEq κ] [LawfulBEq κ] (key : α → κ)

omit [LawfulBEq κ] in
theorem distinctBy_sublist (seen : List κ) (xs : List α) :
    (distinctBy key seen xs).Sublist xs := by
  induction xs generalizing seen with
  | nil => exact .slnil
  | cons x xs ih =>
    rw [distinctBy]
    split
    · exact (ih seen).cons x
    · exact (ih (key x :: seen)).cons_cons x

/-- The keys that are kept are new and pairwise different. -/
theorem nodup_map_distinctBy (seen : List κ) (xs : List α) :
    ((distinctBy key seen xs).map key).Nodup ∧
      ∀ k ∈ (distinctBy key seen xs).map key, k ∉ seen := by
  induction xs generalizing seen with
  | nil => exact ⟨.nil, fun k hk => absurd hk List.not_mem_nil⟩
  | cons x xs ih =>
    rw [distinctBy]
    split
    · exact ih seen
    · rename_i hx
      obtain ⟨hnodup, hnew⟩ := ih (key x :: seen)
      have hself : key x ∉ (distinctBy key (key x :: seen) xs).map key :=
        fun h => hnew _ h List.mem_cons_self
      refine ⟨List.nodup_cons.2 ⟨hself, hnodup⟩, fun k hk => ?_⟩
      rcases List.mem_cons.1 hk with rfl | hk
      · exact fun h => hx (List.contains_iff_mem.2 h)
      · exact fun h => hnew k hk (List.mem_cons_of_mem _ h)

/-- Of every key that has not been seen, an element is kept. -/
theorem key_mem_map_distinctBy (seen : List κ) {xs : List α} {x : α} (hx : x ∈ xs)
    (hnew : key x ∉ seen) : key x ∈ (distinctBy key seen xs).map key := by
  induction xs generalizing seen with
  | nil => exact absurd hx List.not_mem_nil
  | cons y xs ih =>
    rw [distinctBy]
    split
    · rename_i hy
      rcases List.mem_cons.1 hx with rfl | hx
      · exact absurd (List.contains_iff_mem.1 hy) hnew
      · exact ih seen hx hnew
    · -- the first element of this key is kept, be it `x` or another
      by_cases hxy : key x = key y
      · rw [List.map_cons, hxy]
        exact List.mem_cons_self
      · rcases List.mem_cons.1 hx with rfl | hx
        · exact absurd rfl hxy
        · exact List.mem_cons_of_mem _
            (ih (key y :: seen) hx (fun h => (List.mem_cons.1 h).elim hxy hnew))

end

/-! ## The targets below a directory -/

namespace Node

theorem mem_sortByName {α : Type} {xs : List (Text × α)} {x : Text × α} :
    x ∈ sortByName xs ↔ x ∈ xs :=
  List.mem_mergeSort

theorem mem_targetNames {entries : List (Text × Node)} {name : Text} :
    name ∈ targetNames entries ↔
      ∃ node, (name, node) ∈ entries ∧ node.isDir = false ∧ (kindOfName? name).isSome := by
  unfold targetNames
  rw [List.mem_map]
  constructor
  · rintro ⟨⟨name', node⟩, h, rfl⟩
    obtain ⟨hmem, hkept⟩ := List.mem_filter.1 (mem_sortByName.1 h)
    rw [Bool.and_eq_true, Bool.not_eq_true'] at hkept
    exact ⟨node, hmem, hkept⟩
  · rintro ⟨node, hmem, hfile, hkind⟩
    refine ⟨(name, node), mem_sortByName.2 (List.mem_filter.2 ⟨hmem, ?_⟩), rfl⟩
    rw [Bool.and_eq_true, Bool.not_eq_true']
    exact ⟨hfile, hkind⟩

theorem mem_subdirTargets {path : Path} {entries : List (Text × Node)} {name : Text}
    {ts : List Path} :
    (name, ts) ∈ subdirTargets path entries ↔
      ∃ node, (name, node) ∈ entries ∧ node.isDir ∧ isHidden name = false ∧
        ts = targets (path.child name) node := by
  induction entries with
  | nil => rw [subdirTargets]; simp
  | cons e entries ih =>
    obtain ⟨name', node'⟩ := e
    rw [subdirTargets]
    split
    · rename_i hdir
      rw [Bool.and_eq_true, Bool.not_eq_true'] at hdir
      rw [List.mem_cons, ih]
      constructor
      · rintro (h | ⟨node, hmem, h⟩)
        · obtain ⟨rfl, rfl⟩ := Prod.mk.inj h
          exact ⟨node', List.mem_cons_self, hdir.1, hdir.2, rfl⟩
        · exact ⟨node, List.mem_cons_of_mem _ hmem, h⟩
      · rintro ⟨node, hmem, h⟩
        rcases List.mem_cons.1 hmem with heq | hmem
        · obtain ⟨rfl, rfl⟩ := Prod.mk.inj heq
          exact .inl (by rw [h.2.2])
        · exact .inr ⟨node, hmem, h⟩
    · rename_i hdir
      rw [ih]
      constructor
      · rintro ⟨node, hmem, h⟩
        exact ⟨node, List.mem_cons_of_mem _ hmem, h⟩
      · rintro ⟨node, hmem, h⟩
        rcases List.mem_cons.1 hmem with heq | hmem
        · obtain ⟨rfl, rfl⟩ := Prod.mk.inj heq
          exact absurd (by rw [h.1, h.2.1]; rfl) hdir
        · exact ⟨node, hmem, h⟩

/-- A target is a file of the directory or a target of one of its subdirectories. -/
theorem mem_targets_dir {path q : Path} {entries : List (Text × Node)} :
    q ∈ targets path (.dir entries) ↔
      (∃ name ∈ targetNames entries, path.child name = q) ∨
        ∃ name node, (name, node) ∈ entries ∧ node.isDir ∧ isHidden name = false ∧
          q ∈ targets (path.child name) node := by
  rw [targets, List.mem_append, List.mem_map, List.mem_flatMap]
  refine or_congr_right ⟨?_, ?_⟩
  · rintro ⟨⟨name, ts⟩, hts, hq⟩
    obtain ⟨node, hmem, hdir, hhidden, rfl⟩ := mem_subdirTargets.1 (mem_sortByName.1 hts)
    exact ⟨name, node, hmem, hdir, hhidden, hq⟩
  · rintro ⟨name, node, hmem, hdir, hhidden, hq⟩
    exact ⟨(name, targets (path.child name) node),
      mem_sortByName.2 (mem_subdirTargets.2 ⟨node, hmem, hdir, hhidden, rfl⟩), hq⟩

/-- What holds of a path, and of every child of a path of which it holds, holds of the targets below
a well-formed directory. -/
theorem WellFormed.of_mem_targets {P : Path → Prop}
    (hchild : ∀ path name, P path → Path.IsName name → P (path.child name)) {node : Node}
    (hnode : node.WellFormed) {path q : Path} (hpath : P path) (hq : q ∈ targets path node) :
    P q := by
  induction hnode generalizing path with
  | file bytes refusal => rw [targets] at hq; exact absurd hq List.not_mem_nil
  | dir names nodup nodes ih =>
    rcases mem_targets_dir.1 hq with ⟨name, hname, rfl⟩ | ⟨name, node, hmem, -, -, hq⟩
    · obtain ⟨node, hmem, -⟩ := mem_targetNames.1 hname
      exact hchild path name hpath (names (name, node) hmem)
    · exact ih (name, node) hmem (hchild path name hpath (names (name, node) hmem)) hq

/-! ## Targets are a matter of the shape -/

theorem sortByName_map {α β : Type} (f : α → β) (xs : List (Text × α)) :
    sortByName (xs.map (fun x => (x.1, f x.2))) = (sortByName xs).map (fun x => (x.1, f x.2)) := by
  unfold sortByName
  symm
  apply List.map_mergeSort
  intro a _ b _
  rfl

theorem targetNames_shapeEntries (entries : List (Text × Node)) :
    targetNames (shapeEntries entries) = targetNames entries := by
  dsimp only [targetNames]
  rw [shapeEntries_eq_map, List.filter_map, sortByName_map, List.map_map]
  -- whether an entry is kept is asked of its name and of its being a directory
  refine congrArg (fun kept => (sortByName kept).map Prod.fst) (List.filter_congr (fun e _ => ?_))
  show (!e.2.shape.isDir && _) = (!e.2.isDir && _)
  rw [isDir_shape]

theorem targets_shape (path : Path) (node : Node) :
    targets path node.shape = targets path node := by
  refine Node.targets.induct (fun path node => targets path node.shape = targets path node)
    (fun path entries => subdirTargets path (shapeEntries entries) = subdirTargets path entries)
    ?_ ?_ ?_ ?_ ?_ path node
  · intro path bytes refusal
    rw [shape, targets, targets]
  · intro path entries ih
    rw [shape, targets, targets, targetNames_shapeEntries, ih]
  · intro path
    rw [shapeEntries]
  · intro path name node entries hdir ihNode ihEntries
    rw [shapeEntries, subdirTargets, subdirTargets, isDir_shape, if_pos hdir, if_pos hdir, ihNode,
      ihEntries]
  · intro path name node entries hdir ihEntries
    rw [shapeEntries, subdirTargets, subdirTargets, isDir_shape, if_neg hdir, if_neg hdir,
      ihEntries]

end Node

namespace FileTree

theorem isDir_iff {t : FileTree} {p : Path} :
    t.isDir p = true ↔ ∃ entries, t.get? p = some (.dir entries) := by
  unfold isDir
  cases t.get? p with
  | none => simp
  | some node => cases node <;> simp [Node.isDir]

theorem expand_of_not_dir {t : FileTree} {p : Path} (h : t.isDir p = false) :
    t.expand p = [p] := by
  unfold isDir at h
  unfold expand
  split
  · rename_i hget
    rw [hget] at h
    exact nomatch h
  · rfl

theorem expand_shape (t : FileTree) (p : Path) : t.shape.expand p = t.expand p := by
  unfold expand
  rw [shape_get?]
  cases t.get? p with
  | none => rfl
  | some node =>
    cases node with
    | file bytes refusal => rfl
    | dir entries =>
      have hshape := Node.targets_shape p (.dir entries)
      rw [Node.shape] at hshape
      rw [Option.map_some, Node.shape]
      exact hshape

/-- **Which targets are discovered is a matter of the shape**, and so is their order. -/
theorem discover_shape (t : FileTree) (paths : List Path) :
    t.shape.discover paths = t.discover paths := by
  unfold discover
  rw [funext (expand_shape t)]

/-! ## Targets are written differently -/

/-- **Each target is listed once.** -/
theorem nodup_discover (t : FileTree) (paths : List Path) : (t.discover paths).Nodup :=
  List.Nodup.of_map Path.normal (nodup_map_distinctBy Path.normal [] _).1

/-- A target is one that some path stands for. -/
theorem exists_of_mem_discover {t : FileTree} {paths : List Path} {q : Path}
    (hq : q ∈ t.discover paths) : ∃ p ∈ paths, q ∈ t.expand p :=
  List.mem_flatMap.1 ((distinctBy_sublist _ _ _).subset hq)

section

variable {t : FileTree} (ht : t.WellFormed)

include ht

/-- What holds of a path, and of every child of a path of which it holds, holds of what the path
stands for. -/
theorem of_mem_expand {P : Path → Prop}
    (hchild : ∀ path name, P path → Path.IsName name → P (path.child name)) {p q : Path}
    (hp : P p) (hq : q ∈ t.expand p) : P q := by
  cases hdir : t.isDir p with
  | false =>
    rw [expand_of_not_dir hdir] at hq
    exact List.mem_singleton.1 hq ▸ hp
  | true =>
    obtain ⟨entries, hget⟩ := isDir_iff.1 hdir
    have hexpand : t.expand p = Node.targets p (.dir entries) := by
      unfold expand
      rw [hget]
    exact (ht.get? hget).of_mem_targets hchild hp (hexpand ▸ hq)

/-- **No two targets are written the same**, with or without double points. -/
theorem nodup_map_toText_discover (given : List Text) :
    ((t.discover (given.map Path.ofText)).map Path.toText).Nodup := by
  have hwf : ∀ q ∈ t.discover (given.map Path.ofText), q.WellFormed := by
    intro q hq
    obtain ⟨p, hp, hqp⟩ := exists_of_mem_discover hq
    obtain ⟨s, -, rfl⟩ := List.mem_map.1 hp
    exact of_mem_expand ht (fun _ _ h hname => h.child hname.toIsPart)
      (Path.wellFormed_ofText s) hqp
  exact List.Nodup.map_on (fun p hp q hq h => Path.toText_inj (hwf p hp) (hwf q hq) h)
    (nodup_discover t _)

end

/-! ## Paths without double points -/

section

variable {t : FileTree} (ht : t.WellFormed) {paths : List Path}
variable (hpaths : ∀ p ∈ paths, Path.up ∉ p.names)

include ht hpaths

theorem up_notMem_of_mem_expand {p q : Path} (hp : p ∈ paths) (hq : q ∈ t.expand p) :
    Path.up ∉ q.names := by
  refine of_mem_expand (P := fun p => Path.up ∉ p.names) ht ?_ (hpaths p hp) hq
  intro path name hup hname hmem
  rcases List.mem_append.1 hmem with hmem | hmem
  · exact hup hmem
  · exact hname.ne_up (List.mem_singleton.1 hmem).symm

/-- **The targets are those of the paths one by one.** -/
theorem mem_discover {q : Path} : q ∈ t.discover paths ↔ ∃ p ∈ paths, q ∈ t.expand p := by
  refine ⟨exists_of_mem_discover, ?_⟩
  rintro ⟨p, hp, hq⟩
  obtain ⟨r, hr, hnormal⟩ := List.mem_map.1 (key_mem_map_distinctBy Path.normal []
    (List.mem_flatMap.2 ⟨p, hp, hq⟩) List.not_mem_nil)
  obtain ⟨p', hp', hr'⟩ := exists_of_mem_discover hr
  -- what was kept in place of `q` has its normal form, which without double points is `q`
  have hrq : r = q := by
    rw [Path.normal_eq_self (up_notMem_of_mem_expand ht hpaths hp' hr'),
      Path.normal_eq_self (up_notMem_of_mem_expand ht hpaths hp hq)] at hnormal
    exact hnormal
  exact hrq ▸ hr

/-- **The order of the paths and repetitions among them do not matter** but to the order of the
targets. -/
theorem discover_perm {paths' : List Path} (hsame : ∀ p, p ∈ paths' ↔ p ∈ paths) :
    (t.discover paths').Perm (t.discover paths) := by
  refine (List.perm_ext_iff_of_nodup (nodup_discover t paths') (nodup_discover t paths)).2
    (fun q => ?_)
  rw [mem_discover ht hpaths, mem_discover ht (fun p hp => hpaths p ((hsame p).1 hp))]
  exact exists_congr (fun p => and_congr_left' (hsame p))

end

end FileTree

end OpsLint
