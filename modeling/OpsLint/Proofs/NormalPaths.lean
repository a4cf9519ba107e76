import OpsLint.Proofs.FileTree

/-!
# Normal forms lead to the same place

The normal form of a path is made from its names alone: a double point takes back the name before
it. In a tree without links this is right, because going into a directory and back up ends where it
began. To say so one has to keep track of the way: a **place** is a node together with the
directories above it, and following a path is going from place to place, name by name
(`FileTree.follow_eq`).

A path that leads somewhere and its normal form lead to the same place
(`FileTree.place?_normal`). The converse fails: `missing/../file` leads nowhere, and its normal form
may well lead to a file.
-/

namespace OpsLint

namespace Path

/-- A path that goes on with further names. -/
def below (p : Path) (names : List Text) : Path := { p with names := p.names ++ names }

theorem below_below (p : Path) (names names' : List Text) :
    (p.below names).below names' = p.below (names ++ names') := by
  simp [below]

/-- Names other than double points stay in the normal form. -/
theorem normal_below (p : Path) {names : List Text} (h : up ∉ names) :
    (p.below names).normal = p.normal.below names := by
  unfold normal below
  dsimp only
  rw [List.foldl_append, foldl_addNormal h, List.reverse_append, List.reverse_reverse]

end Path

namespace FileTree

/-! ## Places -/

/-- A node and the directories on the way to it, the nearest first. -/
structure Place where
  above : List Node := []
  node : Node

namespace Place

/-- Goes on by one name. Above the root there is only the root. -/
def go (p : Place) (name : Text) : Option Place :=
  if !p.node.isDir then none
  else if name = Path.up then
    some { above := p.above.tail, node := p.above.head?.getD p.node }
  else (p.node.entry? name).map fun next => { above := p.node :: p.above, node := next }

/-- **Going into a directory and back up ends where it began.** -/
theorem go_up_of_go {p q r : Place} {name : Text} (hname : name ≠ Path.up)
    (hq : p.go name = some q) (hr : q.go Path.up = some r) : r = p := by
  unfold go at hq hr
  rw [if_neg hname] at hq
  rw [if_pos rfl] at hr
  split at hq
  · exact nomatch hq
  · obtain ⟨next, -, rfl⟩ := Option.map_eq_some_iff.1 hq
    split at hr
    · exact nomatch hr
    · exact (Option.some.inj hr).symm

/-- At the root there is no way up. -/
theorem eq_of_go_up {p q : Place} (hroot : p.above = []) (h : p.go Path.up = some q) : q = p := by
  unfold go at h
  rw [if_pos rfl] at h
  split at h
  · exact nomatch h
  · obtain ⟨above, node⟩ := p
    obtain rfl : above = [] := hroot
    exact (Option.some.inj h).symm

/-- Without double points it does not matter how one has come to a node. -/
theorem map_node_foldlM_go {names : List Text} (h : Path.up ∉ names) (p : Place) :
    (names.foldlM go p).map node = names.foldlM Node.entry? p.node := by
  induction names generalizing p with
  | nil => rfl
  | cons name names ih =>
    rw [List.mem_cons, not_or] at h
    have hgo : p.go name
        = (p.node.entry? name).map fun next => { above := p.node :: p.above, node := next } := by
      unfold go
      rw [if_neg (Ne.symm h.1)]
      cases p.node with
      | file bytes => rfl
      | dir entries => rfl
    rw [List.foldlM_cons, List.foldlM_cons, hgo]
    cases p.node.entry? name with
    | none => rfl
    | some next => exact ih h.2 _

end Place

/-- **Following names is going from place to place.** -/
theorem follow_eq (above : List Node) (node : Node) (names : List Text) :
    follow above node names = (names.foldlM Place.go { above, node }).map Place.node := by
  induction names generalizing above node with
  | nil => rfl
  | cons name names ih =>
    rw [follow_cons, List.foldlM_cons, Place.go]
    dsimp only
    split
    · rfl
    · split
      · exact ih _ _
      · cases node.entry? name with
        | none => rfl
        | some next => exact ih _ _

/-! ## Normal forms -/

/-- **One more name of the normal form.** If the normal form of the names so far leads to a place,
the normal form with one more name leads to where the name leads from there. -/
theorem foldlM_go_addNormal {absolute : Bool} {start p q : Place} {acc : List Text} {name : Text}
    (hstart : absolute = true → start.above = [])
    (hacc : acc.reverse.foldlM Place.go start = some p) (h : p.go name = some q) :
    (Path.addNormal absolute acc name).reverse.foldlM Place.go start = some q := by
  have hcons : (name :: acc).reverse.foldlM Place.go start = some q := by
    rw [List.reverse_cons, List.foldlM_append, hacc]
    simpa using h
  unfold Path.addNormal
  by_cases hname : name = Path.up
  · subst hname
    rw [if_neg fun hne => hne rfl]
    cases acc with
    | nil =>
      obtain rfl : start = p := Option.some.inj hacc
      cases absolute with
      | true => rw [Place.eq_of_go_up (hstart rfl) h]; rfl
      | false => exact hcons
    | cons last rest =>
      dsimp only
      by_cases hlast : last = Path.up
      · rw [if_pos hlast]
        exact hcons
      · -- the double point takes back the name before it
        rw [if_neg hlast]
        rw [List.reverse_cons, List.foldlM_append] at hacc
        obtain ⟨r, hr, hlastGo⟩ := Option.bind_eq_some_iff.1 hacc
        rw [Place.go_up_of_go hlast (by simpa using hlastGo) h]
        exact hr
  · rw [if_pos hname]
    exact hcons

/-- The same for any number of names. -/
theorem foldlM_go_foldl_addNormal {absolute : Bool} {start p q : Place} {acc names : List Text}
    (hstart : absolute = true → start.above = [])
    (hacc : acc.reverse.foldlM Place.go start = some p) (h : names.foldlM Place.go p = some q) :
    (names.foldl (Path.addNormal absolute) acc).reverse.foldlM Place.go start = some q := by
  induction names generalizing p acc with
  | nil => exact hacc.trans h
  | cons name names ih =>
    rw [List.foldlM_cons] at h
    obtain ⟨r, hr, h⟩ := Option.bind_eq_some_iff.1 h
    exact ih (foldlM_go_addNormal hstart hacc hr) h

/-! ## Paths in a tree -/

/-- The place that a path starts from. -/
def start? (t : FileTree) (p : Path) : Option Place :=
  (if p.slashes = 0 then t.home else []).foldlM Place.go { node := t.root }

/-- The place that a path leads to. -/
def place? (t : FileTree) (p : Path) : Option Place :=
  (t.start? p).bind fun start => p.names.foldlM Place.go start

theorem get?_eq (t : FileTree) (p : Path) : t.get? p = (t.place? p).map Place.node := by
  rw [get?, follow_eq, place?, start?, absolute]
  split
  · rw [List.foldlM_append]
    rfl
  · rfl

/-- **A path that leads somewhere and its normal form lead to the same place.** -/
theorem place?_normal {t : FileTree} {p : Path} {q : Place} (h : t.place? p = some q) :
    t.place? p.normal = some q := by
  obtain ⟨start, hstart, h⟩ := Option.bind_eq_some_iff.1 h
  refine Option.bind_eq_some_iff.2 ⟨start, hstart, foldlM_go_foldl_addNormal (fun habs => ?_) rfl h⟩
  rw [start?, if_neg (of_decide_eq_true habs)] at hstart
  rw [← Option.some.inj hstart]

theorem get?_normal {t : FileTree} {p : Path} {node : Node} (h : t.get? p = some node) :
    t.get? p.normal = some node := by
  rw [get?_eq, Option.map_eq_some_iff] at h
  obtain ⟨q, hq, rfl⟩ := h
  rw [get?_eq, place?_normal hq, Option.map_some]

/-- What lies below the node that a path leads to. -/
theorem get?_below {t : FileTree} {p : Path} {node : Node} (hp : t.get? p = some node)
    {names : List Text} (h : Path.up ∉ names) :
    t.get? (p.below names) = names.foldlM Node.entry? node := by
  rw [get?_eq, Option.map_eq_some_iff] at hp
  obtain ⟨q, hq, rfl⟩ := hp
  have hbelow : t.place? (p.below names) = (t.place? p).bind fun r => names.foldlM Place.go r := by
    show (t.start? p).bind (fun start => (p.names ++ names).foldlM Place.go start) = _
    rw [place?, Option.bind_assoc]
    congr 1
    funext start
    exact List.foldlM_append
  rw [get?_eq, hbelow, hq, Option.bind_some, Place.map_node_foldlM_go h]

end FileTree

end OpsLint
