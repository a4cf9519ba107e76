import OpsLint.Proofs.Discovery
import OpsLint.Proofs.LastGiven
import OpsLint.Proofs.NormalPaths

/-!
# What is discovered

A walk through a directory takes up the files whose names tell their kind and goes into every
subdirectory that is not hidden. So a file is taken up if and only if it can be reached from the
directory by names of which none but the last may begin with a point
(`Node.WellFormed.mem_targets_iff`).

Paths are compared by their normal forms, and so is what this module says of the targets: which
normal forms there are among them depends on the given paths one by one
(`FileTree.mem_map_normal_discover`), although which spelling of a target is kept depends on their
order. No target is a directory, and hence a list of targets stands for itself
(`FileTree.expand_of_mem_discover`).
-/

namespace OpsLint

/-! ## Keeping the first of each kind -/

section

variable {α κ : Type} [BEq κ] [LawfulBEq κ] (key : α → κ)

/-- No key is lost. -/
theorem mem_map_distinctBy {xs : List α} {k : κ} :
    k ∈ (distinctBy key [] xs).map key ↔ k ∈ xs.map key := by
  constructor
  · exact fun h => ((distinctBy_sublist key [] xs).map key).subset h
  · intro h
    obtain ⟨x, hx, rfl⟩ := List.mem_map.1 h
    exact key_mem_map_distinctBy key [] hx List.not_mem_nil

/-- Elements of different keys are all kept. -/
theorem distinctBy_eq_self {seen : List κ} {xs : List α} (hnodup : (xs.map key).Nodup)
    (hseen : ∀ x ∈ xs, key x ∉ seen) : distinctBy key seen xs = xs := by
  induction xs generalizing seen with
  | nil => rfl
  | cons x xs ih =>
    rw [List.map_cons, List.nodup_cons] at hnodup
    have hx : ¬ seen.contains (key x) = true := by
      rw [List.contains_iff_mem]
      exact hseen x List.mem_cons_self
    rw [distinctBy, if_neg hx, ih hnodup.2]
    intro y hy hmem
    rcases List.mem_cons.1 hmem with hxy | hmem
    · exact hnodup.1 (hxy ▸ List.mem_map_of_mem hy)
    · exact hseen y (List.mem_cons_of_mem x hy) hmem

end

/-! ## The files below a directory -/

namespace Node

/-- The name of the directory above is hidden, and tells no kind. -/
theorem up_notMem {dirs : List Text} {name : Text} (hname : (kindOfName? name).isSome = true)
    (hdirs : ∀ dir ∈ dirs, isHidden dir = false) : Path.up ∉ dirs ++ [name] := by
  intro hmem
  rcases List.mem_append.1 hmem with hmem | hmem
  · exact absurd (hdirs _ hmem) (by decide)
  · rw [← List.mem_singleton.1 hmem] at hname
    exact absurd hname (by decide)

/-- Names lead from a node down to a file whose name tells its kind, past no hidden directory. -/
structure LeadsDown (node : Node) (dirs : List Text) (name : Text) : Prop where
  isFile : ∃ bytes refusal, (dirs ++ [name]).foldlM entry? node = some (.file bytes refusal)
  hasKind : (kindOfName? name).isSome = true
  notHidden : ∀ dir ∈ dirs, isHidden dir = false

namespace LeadsDown

theorem nil_iff {node : Node} {name : Text} :
    node.LeadsDown [] name ↔
      (∃ bytes refusal, node.entry? name = some (.file bytes refusal)) ∧
        (kindOfName? name).isSome = true := by
  refine ⟨fun h => ⟨?_, h.hasKind⟩, fun h => ⟨?_, h.2, fun dir hdir => nomatch hdir⟩⟩
  · simpa using h.isFile
  · simpa using h.1

theorem cons_iff {node : Node} {dir : Text} {dirs : List Text} {name : Text} :
    node.LeadsDown (dir :: dirs) name ↔
      isHidden dir = false ∧ ∃ next, node.entry? dir = some next ∧ next.LeadsDown dirs name := by
  constructor
  · intro h
    obtain ⟨bytes, refusal, hfile⟩ := h.isFile
    rw [List.cons_append, List.foldlM_cons] at hfile
    obtain ⟨next, hnext, hfile⟩ := Option.bind_eq_some_iff.1 hfile
    exact ⟨h.notHidden dir List.mem_cons_self, next, hnext, ⟨bytes, refusal, hfile⟩, h.hasKind,
      fun d hd => h.notHidden d (List.mem_cons_of_mem dir hd)⟩
  · rintro ⟨hhidden, next, hnext, h⟩
    obtain ⟨bytes, refusal, hfile⟩ := h.isFile
    refine ⟨⟨bytes, refusal, ?_⟩, h.hasKind, List.forall_mem_cons.2 ⟨hhidden, h.notHidden⟩⟩
    rw [List.cons_append, List.foldlM_cons, hnext]
    exact hfile

/-- Only from a directory is there a way down. -/
theorem isDir {node : Node} {dirs : List Text} {name : Text} (h : node.LeadsDown dirs name) :
    node.isDir = true := by
  cases node with
  | dir entries => rfl
  | file bytes refusal =>
    cases dirs with
    | nil => exact nomatch (nil_iff.1 h).1
    | cons dir dirs => exact nomatch (cons_iff.1 h).2

end LeadsDown

/-- **The targets are the files that names lead down to.** -/
theorem WellFormed.mem_targets_iff {node : Node} (hnode : node.WellFormed) {path q : Path} :
    q ∈ targets path node ↔
      ∃ dirs name, q = path.below (dirs ++ [name]) ∧ node.LeadsDown dirs name := by
  induction hnode generalizing path with
  | file bytes refusal =>
    rw [targets]
    refine iff_of_false List.not_mem_nil ?_
    rintro ⟨dirs, name, -, h⟩
    exact Bool.false_ne_true h.isDir
  | @dir entries names nodup nodes ih =>
    have hentry : ∀ name node,
        Node.entry? (.dir entries) name = some node ↔ (name, node) ∈ entries :=
      Assoc.lookup_eq_some_iff_mem nodup
    rw [mem_targets_dir]
    constructor
    · rintro (⟨name, hname, rfl⟩ | ⟨dir, node, hmem, -, hhidden, hq⟩)
      · obtain ⟨node, hmem, hfile, hkind⟩ := mem_targetNames.1 hname
        refine ⟨[], name, rfl, LeadsDown.nil_iff.2 ⟨?_, hkind⟩⟩
        cases node with
        | file bytes refusal => exact ⟨bytes, refusal, (hentry _ _).2 hmem⟩
        | dir inner => exact absurd hfile.symm Bool.false_ne_true
      · obtain ⟨dirs, name, rfl, h⟩ := (ih (dir, node) hmem).1 hq
        refine ⟨dir :: dirs, name, Path.below_below path [dir] _, ?_⟩
        exact LeadsDown.cons_iff.2 ⟨hhidden, node, (hentry _ _).2 hmem, h⟩
    · rintro ⟨dirs, name, rfl, h⟩
      cases dirs with
      | nil =>
        obtain ⟨⟨bytes, refusal, hfile⟩, hkind⟩ := LeadsDown.nil_iff.1 h
        exact .inl ⟨name, mem_targetNames.2 ⟨_, (hentry _ _).1 hfile, rfl, hkind⟩, rfl⟩
      | cons dir dirs =>
        obtain ⟨hhidden, next, hnext, h⟩ := LeadsDown.cons_iff.1 h
        have hmem := (hentry _ _).1 hnext
        refine .inr ⟨dir, next, hmem, h.isDir, hhidden, (ih (dir, next) hmem).2 ⟨dirs, name, ?_, h⟩⟩
        exact (Path.below_below path [dir] _).symm

end Node

/-! ## The targets of a path -/

namespace FileTree

/-- **A normal path that a directory stands for**: it leads to a file below the directory whose name
tells its kind, and no directory strictly between is hidden. -/
def Covers (t : FileTree) (p q : Path) : Prop :=
  ∃ dirs name, q = p.normal.below (dirs ++ [name]) ∧ t.isFile q = true ∧
    (kindOfName? name).isSome = true ∧ ∀ dir ∈ dirs, Node.isHidden dir = false

theorem isFile_iff {t : FileTree} {p : Path} :
    t.isFile p = true ↔ ∃ bytes refusal, t.get? p = some (.file bytes refusal) := by
  unfold isFile
  cases t.get? p with
  | none => simp
  | some node => cases node <;> simp [Node.isDir]

/-- The normal paths that a directory stands for are made of its own and of what leads down from
it. -/
theorem covers_iff {t : FileTree} {p q : Path} {node : Node} (hp : t.get? p = some node) :
    t.Covers p q ↔
      ∃ dirs name, q = p.normal.below (dirs ++ [name]) ∧ node.LeadsDown dirs name := by
  constructor
  · rintro ⟨dirs, name, rfl, hfile, hkind, hhidden⟩
    obtain ⟨bytes, refusal, hget⟩ := isFile_iff.1 hfile
    rw [get?_below (get?_normal hp) (Node.up_notMem hkind hhidden)] at hget
    exact ⟨dirs, name, rfl, ⟨bytes, refusal, hget⟩, hkind, hhidden⟩
  · rintro ⟨dirs, name, rfl, ⟨bytes, refusal, hget⟩, hkind, hhidden⟩
    rw [← get?_below (get?_normal hp) (Node.up_notMem hkind hhidden)] at hget
    exact ⟨dirs, name, rfl, isFile_iff.2 ⟨bytes, refusal, hget⟩, hkind, hhidden⟩

section

variable {t : FileTree} (ht : t.WellFormed)

include ht

/-- The targets of a directory, as they are and not in normal form. -/
theorem mem_expand_of_isDir {p q : Path} {entries : List (Text × Node)}
    (hp : t.get? p = some (.dir entries)) :
    q ∈ t.expand p ↔
      ∃ dirs name, q = p.below (dirs ++ [name]) ∧ (Node.dir entries).LeadsDown dirs name := by
  unfold expand
  rw [hp]
  exact (ht.get? hp).mem_targets_iff

/-- **The normal forms of the targets of a path**: its own if it is no directory, and otherwise
those that the directory stands for. -/
theorem mem_map_normal_expand (p q : Path) :
    q ∈ (t.expand p).map Path.normal ↔
      (t.isDir p = false ∧ p.normal = q) ∨ (t.isDir p = true ∧ t.Covers p q) := by
  cases hdir : t.isDir p with
  | false => simp [expand_of_not_dir hdir, eq_comm]
  | true =>
    obtain ⟨entries, hp⟩ := isDir_iff.1 hdir
    rw [List.mem_map, covers_iff hp]
    constructor
    · rintro ⟨r, hr, rfl⟩
      obtain ⟨dirs, name, rfl, h⟩ := (mem_expand_of_isDir ht hp).1 hr
      have hup := Node.up_notMem h.hasKind h.notHidden
      exact .inr ⟨rfl, dirs, name, Path.normal_below p hup, h⟩
    · rintro (⟨hfalse, -⟩ | ⟨-, dirs, name, rfl, h⟩)
      · exact absurd hfalse.symm Bool.false_ne_true
      · have hup := Node.up_notMem h.hasKind h.notHidden
        exact ⟨_, (mem_expand_of_isDir ht hp).2 ⟨dirs, name, rfl, h⟩, Path.normal_below p hup⟩

/-- No target is a directory. -/
theorem isDir_of_mem_expand {p q : Path} (hq : q ∈ t.expand p) : t.isDir q = false := by
  cases hdir : t.isDir p with
  | false =>
    rw [expand_of_not_dir hdir] at hq
    exact List.mem_singleton.1 hq ▸ hdir
  | true =>
    obtain ⟨entries, hp⟩ := isDir_iff.1 hdir
    obtain ⟨dirs, name, rfl, h⟩ := (mem_expand_of_isDir ht hp).1 hq
    obtain ⟨bytes, refusal, hfile⟩ := h.isFile
    rw [isDir, get?_below hp (Node.up_notMem h.hasKind h.notHidden), hfile]
    rfl

/-! ## The targets of a list of paths -/

theorem mem_map_normal_discover (paths : List Path) (q : Path) :
    q ∈ (t.discover paths).map Path.normal ↔
      ∃ p ∈ paths, (t.isDir p = false ∧ p.normal = q) ∨ (t.isDir p = true ∧ t.Covers p q) := by
  rw [discover, mem_map_distinctBy, List.map_flatMap, List.mem_flatMap]
  exact exists_congr fun p => and_congr_right fun _ => mem_map_normal_expand ht p q

/-- A target stands for itself. -/
theorem expand_of_mem_discover {paths : List Path} {q : Path} (hq : q ∈ t.discover paths) :
    t.expand q = [q] := by
  obtain ⟨p, -, hp⟩ := exists_of_mem_discover hq
  exact expand_of_not_dir (isDir_of_mem_expand ht hp)

theorem flatMap_expand_discover (paths : List Path) :
    (t.discover paths).flatMap t.expand = t.discover paths := by
  rw [List.flatMap_congr fun q hq => expand_of_mem_discover ht hq, List.flatMap_singleton']

/-- **Discovery is sound, complete, free of duplicates and idempotent.** The normal forms of the
targets are pairwise different. They are those of the given paths that lead to no directory, be it
that they lead to a file or nowhere, and of the files that the given directories stand for. What has
been discovered is discovered again, and nothing else. -/
theorem discover_exact (paths : List Path) :
    ((t.discover paths).map Path.normal).Nodup ∧
    (∀ q, q ∈ (t.discover paths).map Path.normal ↔
      (∃ p ∈ paths, t.isDir p = false ∧ p.normal = q) ∨
        ∃ p ∈ paths, t.isDir p = true ∧ t.Covers p q) ∧
    t.discover (t.discover paths) = t.discover paths := by
  have hnodup : ((t.discover paths).map Path.normal).Nodup := (nodup_map_distinctBy _ _ _).1
  refine ⟨hnodup, fun q => ?_, ?_⟩
  · rw [mem_map_normal_discover ht, ← exists_or]
    exact exists_congr fun p => and_or_left
  · conv_lhs => rw [discover, flatMap_expand_discover ht]
    exact distinctBy_eq_self _ hnodup fun _ _ => List.not_mem_nil

end

/-- A directory is given with a detour and another one within it, and a file is given by a path that
leads nowhere. -/
theorem discover_exact_of_detours :
    let t : FileTree := .ofEntries ["w"] [
      ("Dockerfile", .file []), ("notes", .file []),
      ("src", .dir [("deep", .dir [(".env", .file [])]), (".git", .dir [("Makefile", .file [])])])]
    let path (s : String) : Path := .ofText s
    let paths := [path "missing/../Dockerfile", path "src/..", path "src/deep", path "gone"]
    let found := [path "missing/../Dockerfile", path "src/../src/deep/.env", path "gone"]
    t.WellFormed ∧ t.discover paths = found ∧ t.discover found = found ∧
      (found.map Path.normal).Nodup ∧ t.Covers (path "src/..") (path "src/deep/.env") ∧
      path "src/deep/.env" ∈ found.map Path.normal := by
  intro t path paths found
  have ht : t.WellFormed := by decide +kernel
  have hfound : t.discover paths = found := by decide +kernel
  have hcovers : t.Covers (path "src/..") (path "src/deep/.env") :=
    ⟨["src".toList, "deep".toList], ".env", by decide +kernel, by decide +kernel, by decide +kernel,
      by decide +kernel⟩
  obtain ⟨hnodup, hmem, hagain⟩ := discover_exact ht paths
  rw [hfound] at hnodup hmem hagain
  exact ⟨ht, hfound, hagain, hnodup, hcovers,
    (hmem _).2 (.inr ⟨path "src/..", by decide +kernel, by decide +kernel, hcovers⟩)⟩

end FileTree

end OpsLint
