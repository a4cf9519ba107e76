import OpsLint.Files.Tree
import OpsLint.Proofs.Path

/-!
# Trees of files

Two things about a tree matter to a run besides the bytes of its files. A tree is **well-formed** if
the entries of its directories are what a file system allows: they have names, and no two entries of
a directory have the same one. A name with a slash in it, or the name of the directory itself or of
the one above it, cannot be an entry.

The **shape** of a tree is what is left of it when its files are emptied. Where a path leads to and
which directories are there is a matter of the shape alone (`FileTree.shape_get?`).
-/

namespace OpsLint

/-! ## Well-formed trees -/

/-- A name that an entry of a directory can have. -/
structure Path.IsName (name : Text) : Prop extends Path.IsPart name where
  ne_up : name ≠ Path.up

/-- The entries of all directories have names, and those of one directory different names. -/
inductive Node.WellFormed : Node → Prop
  | file (bytes : List UInt8) (refusal : Option Text) : WellFormed (.file bytes refusal)
  | dir {entries : List (Text × Node)} (names : ∀ e ∈ entries, Path.IsName e.1)
      (nodup : (entries.map Prod.fst).Nodup) (nodes : ∀ e ∈ entries, WellFormed e.2) :
      WellFormed (.dir entries)

/-- A tree of files as a file system can hold it. -/
def FileTree.WellFormed (t : FileTree) : Prop := t.root.WellFormed

instance (name : Text) : Decidable (Path.IsName name) :=
  decidable_of_iff ((name ≠ [] ∧ '/' ∉ name ∧ name ≠ ['.']) ∧ name ≠ Path.up)
    ⟨fun ⟨⟨h₁, h₂, h₃⟩, h₄⟩ => ⟨⟨h₁, h₂, h₃⟩, h₄⟩,
      fun h => ⟨⟨h.ne_nil, h.noSlash, h.ne_here⟩, h.ne_up⟩⟩

theorem Node.wellFormed_dir {entries : List (Text × Node)} :
    (Node.dir entries).WellFormed ↔ (∀ e ∈ entries, Path.IsName e.1) ∧
      (entries.map Prod.fst).Nodup ∧ ∀ e ∈ entries, e.2.WellFormed :=
  ⟨fun | .dir names nodup nodes => ⟨names, nodup, nodes⟩, fun h => .dir h.1 h.2.1 h.2.2⟩

mutual

instance Node.decidableWellFormed : (node : Node) → Decidable node.WellFormed
  | .file bytes refusal => .isTrue (.file bytes refusal)
  | .dir entries =>
    have := Node.decidableWellFormedEntries entries
    decidable_of_iff _ wellFormed_dir.symm

instance Node.decidableWellFormedEntries :
    (entries : List (Text × Node)) → Decidable (∀ e ∈ entries, e.2.WellFormed)
  | [] => .isTrue (List.forall_mem_nil _)
  | (_, node) :: entries =>
    have := Node.decidableWellFormed node
    have := Node.decidableWellFormedEntries entries
    decidable_of_iff (node.WellFormed ∧ ∀ e ∈ entries, e.2.WellFormed)
      (by rw [List.forall_mem_cons])

end

instance (t : FileTree) : Decidable t.WellFormed := inferInstanceAs (Decidable t.root.WellFormed)

theorem Node.WellFormed.entry? {node next : Node} {name : Text} (hnode : node.WellFormed)
    (h : node.entry? name = some next) : next.WellFormed := by
  cases hnode with
  | file bytes refusal => exact nomatch h
  | dir names nodup nodes =>
    obtain ⟨before, after, hentries, -⟩ := List.lookup_eq_some_iff.1 h
    exact nodes (name, next) (hentries ▸ List.mem_append_right before List.mem_cons_self)

namespace FileTree

theorem follow_cons (above : List Node) (node : Node) (name : Text) (names : List Text) :
    follow above node (name :: names)
      = if !node.isDir then none
        else if name = Path.up then
          follow above.tail (above.head?.getD node) names
        else (node.entry? name).bind (fun next => follow (node :: above) next names) := by
  rw [follow.eq_def]
  dsimp only
  congr 2
  · cases above <;> rfl
  · cases node.entry? name <;> rfl

/-- Names lead from well-formed nodes to well-formed nodes. -/
theorem wellFormed_follow {above : List Node} {node last : Node} {names : List Text}
    (habove : ∀ n ∈ above, n.WellFormed) (hnode : node.WellFormed)
    (h : follow above node names = some last) : last.WellFormed := by
  induction names generalizing above node with
  | nil => exact Option.some.inj h ▸ hnode
  | cons name names ih =>
    rw [follow_cons] at h
    split at h
    · exact nomatch h
    · split at h
      · cases above with
        | nil => exact ih habove hnode h
        | cons parent above =>
          exact ih (fun n hn => habove n (List.mem_cons_of_mem parent hn))
            (habove parent List.mem_cons_self) h
      · obtain ⟨next, hnext, h⟩ := Option.bind_eq_some_iff.1 h
        exact ih (List.forall_mem_cons.2 ⟨hnode, habove⟩) (hnode.entry? hnext) h

theorem WellFormed.get? {t : FileTree} (ht : t.WellFormed) {p : Path} {node : Node}
    (h : t.get? p = some node) : node.WellFormed :=
  wellFormed_follow (fun _ hn => absurd hn List.not_mem_nil) ht h

end FileTree

/-! ## Shapes -/

namespace Node

mutual

/-- A node with all files emptied, and none of them refused. -/
def shape : Node → Node
  | .file _ _ => .file []
  | .dir entries => .dir (shapeEntries entries)

/-- The entries of a directory with all files emptied. -/
def shapeEntries : List (Text × Node) → List (Text × Node)
  | [] => []
  | (name, node) :: entries => (name, node.shape) :: shapeEntries entries

end

theorem shapeEntries_eq_map (entries : List (Text × Node)) :
    shapeEntries entries = entries.map (fun e => (e.1, e.2.shape)) := by
  induction entries with
  | nil => rw [shapeEntries]; rfl
  | cons e entries ih => rw [shapeEntries, ih]; rfl

@[simp] theorem isDir_shape (node : Node) : node.shape.isDir = node.isDir := by
  cases node with
  | file bytes refusal => rw [shape]; rfl
  | dir entries => rw [shape]; rfl

theorem entry?_shape (node : Node) (name : Text) :
    node.shape.entry? name = (node.entry? name).map shape := by
  cases node with
  | file bytes refusal => rw [shape]; rfl
  | dir entries =>
    rw [shape, shapeEntries_eq_map]
    show (entries.map (fun e => (e.1, e.2.shape))).lookup name = (entries.lookup name).map shape
    induction entries with
    | nil => rfl
    | cons e entries ih =>
      rw [List.map_cons, List.lookup_cons, List.lookup_cons, ih]
      cases name == e.1 <;> rfl

end Node

namespace FileTree

/-- The shape of what names lead to is found by following them in the shape. -/
theorem follow_shape (above : List Node) (node : Node) (names : List Text) :
    follow (above.map Node.shape) node.shape names = (follow above node names).map Node.shape := by
  induction names generalizing above node with
  | nil => rfl
  | cons name names ih =>
    rw [follow_cons, follow_cons, Node.isDir_shape, Node.entry?_shape]
    split
    · rfl
    · split
      · cases above with
        | nil => exact ih [] node
        | cons parent above => exact ih above parent
      · cases node.entry? name with
        | none => rfl
        | some next => exact ih (node :: above) next

/-- A tree with all files emptied. -/
def shape (t : FileTree) : FileTree := { t with root := t.root.shape }

/-- **Where a path leads to is a matter of the shape.** -/
theorem shape_get? (t : FileTree) (p : Path) : t.shape.get? p = (t.get? p).map Node.shape :=
  follow_shape [] t.root (t.absolute p)

end FileTree

end OpsLint
