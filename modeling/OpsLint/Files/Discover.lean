import OpsLint.Detect
import OpsLint.Files.Tree

/-!
# Discovering files

A path that does not lead to a directory is a target as it is, also if it leads nowhere: that is
reported later. A directory stands for the files below it whose names tell their kind, except those
in hidden directories. The files of a directory come before those of its subdirectories, and both
are in order of their names.

A target is listed once, however many ways lead to it: paths are compared by their normal forms, and
the first one is kept.
-/

namespace OpsLint

/-- Elements in order of their names. -/
def sortByName {α : Type} (xs : List (Text × α)) : List (Text × α) :=
  xs.mergeSort fun a b => Text.le a.1 b.1

namespace Node

/-- The names of the files in a directory that tell their kind, in order. -/
def targetNames (entries : List (Text × Node)) : List Text :=
  let files := entries.filter fun (name, node) => !node.isDir && (kindOfName? name).isSome
  (sortByName files).map (·.1)

/-- A name of a directory that is not looked into. -/
def isHidden (name : Text) : Bool := name.head? = some '.'

mutual

/-- The targets below a directory at a given path. -/
def targets (path : Path) : Node → List Path
  | .file _ _ => []
  | .dir entries =>
    (targetNames entries).map path.child ++
      (sortByName (subdirTargets path entries)).flatMap (·.2)

/-- The subdirectories among the entries of a directory that are not hidden, each with the targets
below it. -/
def subdirTargets (path : Path) : List (Text × Node) → List (Text × List Path)
  | [] => []
  | (name, node) :: entries =>
    if node.isDir && !isHidden name then
      (name, targets (path.child name) node) :: subdirTargets path entries
    else subdirTargets path entries

end

end Node

/-- The elements of a list whose keys are not among `seen` and do not occur before them. -/
def distinctBy {α κ : Type} [BEq κ] (key : α → κ) (seen : List κ) : List α → List α
  | [] => []
  | x :: xs =>
    if seen.contains (key x) then distinctBy key seen xs
    else x :: distinctBy key (key x :: seen) xs

namespace FileTree

/-- The targets that a path stands for. -/
def expand (t : FileTree) (p : Path) : List Path :=
  match t.get? p with
  | some (.dir entries) => Node.targets p (.dir entries)
  | _ => [p]

/-- The targets that a list of paths stands for. -/
def discover (t : FileTree) (paths : List Path) : List Path :=
  distinctBy Path.normal [] (paths.flatMap t.expand)

end FileTree

end OpsLint
