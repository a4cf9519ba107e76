import OpsLint.Assoc
import OpsLint.Files.Path

/-!
# File trees

The files that a run can see: a tree of directories and files, and the directory that relative paths
start from. There are no links, so a path is followed name by name, and a double point goes back the
way one has come. All directories can be listed; a file may be one that cannot be read.
-/

namespace OpsLint

/-- A file or a directory. A file has bytes, and a reason if the system refuses to have it read. -/
inductive Node where
  | file (bytes : List UInt8) (refusal : Option Text := none)
  | dir (entries : List (Text × Node))

namespace Node

/-- A node is a directory. -/
def isDir : Node → Bool
  | .dir _ => true
  | .file _ _ => false

/-- The node of a name in a directory. -/
def entry? : Node → Text → Option Node
  | .dir entries, name => entries.lookup name
  | .file _ _, _ => none

/-- The entries of a directory, with the node at a path changed. Directories on the way are made as
needed, and take the place of files. -/
def change (f : Option Node → Node) : List Text → List (Text × Node) → List (Text × Node)
  | [], entries => entries
  | [name], entries => Assoc.put name (f (entries.lookup name)) entries
  | name :: names, entries =>
    let inner := match entries.lookup name with
      | some (.dir inner) => inner
      | _ => []
    Assoc.put name (.dir (change f names inner)) entries

/-- The entries of a directory with a file put at a path. -/
def putFile (path : Path) (bytes : List UInt8) (entries : List (Text × Node)) :
    List (Text × Node) :=
  change (fun _ => .file bytes) path.names entries

/-- The entries of a directory with a directory at a path, an empty one if there is none. -/
def putDir (path : Path) (entries : List (Text × Node)) : List (Text × Node) :=
  change (fun
    | some (.dir inner) => .dir inner
    | _ => .dir []) path.names entries

end Node

/-- Files, and the directory that relative paths start from. -/
structure FileTree where
  root : Node
  /-- The names that lead from the root to the working directory. -/
  home : List Text

namespace FileTree

/-- The tree in which the directory at `home` has the given entries, and nothing else is there. -/
def ofEntries (home : List Text) (entries : List (Text × Node)) : FileTree :=
  { root := home.foldr (fun name node => .dir [(name, node)]) (.dir entries), home }

/-- Follows names from a node; `above` are the directories on the way to it, the nearest first. -/
def follow (above : List Node) (node : Node) : List Text → Option Node
  | [] => some node
  | name :: names =>
    if !node.isDir then none
    else if name = Path.up then
      match above with
      | [] => follow [] node names
      | parent :: above => follow above parent names
    else match node.entry? name with
      | none => none
      | some next => follow (node :: above) next names

/-- The names of a path from the root on. -/
def absolute (t : FileTree) (p : Path) : List Text :=
  if p.slashes = 0 then t.home ++ p.names else p.names

/-- What a path leads to. -/
def get? (t : FileTree) (p : Path) : Option Node := follow [] t.root (t.absolute p)

/-- A path leads to a directory. -/
def isDir (t : FileTree) (p : Path) : Bool := (t.get? p).any Node.isDir

/-- A path leads to a file. -/
def isFile (t : FileTree) (p : Path) : Bool := (t.get? p).any (!·.isDir)

/-- The absolute path without double points that a path amounts to. -/
def resolve (t : FileTree) (p : Path) : Path :=
  Path.normal { slashes := if p.slashes = 0 then 1 else p.slashes, names := t.absolute p }

end FileTree

end OpsLint
