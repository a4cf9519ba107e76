import OpsLint.Text.Basic

/-!
# Paths

A path is a list of names, relative or absolute. Empty names and single points are dropped when a
path is read; double points are kept, since what they lead to depends on the files. Exactly two
slashes at the start are kept apart from one, as they may mean something else.

`normal` removes the double points by the names alone. Two paths with the same normal form name the
same file if there are no links.
-/

namespace OpsLint

/-- A path. -/
structure Path where
  /-- The number of slashes at the start: none, one or two. -/
  slashes : Nat := 0
  /-- The names, from the outermost on. -/
  names : List Text := []
deriving DecidableEq, Repr

namespace Path

/-- The name that leads to the directory above. -/
def up : Text := ".."

/-- The number of slashes that a path keeps of those at its start. -/
def keptSlashes (count : Nat) : Nat := if count ≤ 2 then count else 1

/-- Reads a path. -/
def ofText (s : Text) : Path :=
  { slashes := keptSlashes (s.takeWhile (· = '/')).length
    names := (Text.splitOn '/' s).filter fun name => !name.isEmpty && name ≠ ['.'] }

/-- Writes a path; the path without a name is a point. -/
def toText (p : Path) : Text :=
  if p.slashes = 0 && p.names.isEmpty then "."
  else List.replicate p.slashes '/' ++ Text.join "/" p.names

/-- The last name of a path, if it has one. -/
def fileName (p : Path) : Text := p.names.getLast?.getD ""

/-- A path within a directory. -/
def child (p : Path) (name : Text) : Path := { p with names := p.names ++ [name] }

/-- One more name of a normal form; `acc` holds the names before it, last name first. A double point
takes back the name before it. There is nothing above the root, and a relative path can begin with
double points. -/
def addNormal (absolute : Bool) (acc : List Text) (name : Text) : List Text :=
  if name ≠ up then name :: acc
  else match acc with
    | [] => if absolute then [] else [up]
    | last :: rest => if last = up then up :: acc else rest

/-- A path without double points, except at the start of a relative path. -/
def normal (p : Path) : Path :=
  { p with names := (p.names.foldl (addNormal (p.slashes ≠ 0)) []).reverse }

end Path

end OpsLint
