/-!
# Repeated keys

The elements of a list whose key an earlier element has, each with the first element of that key.
Both files with assignments and files with targets ask for them.
-/

namespace OpsLint

/-- The repeated elements of a list that is read after the elements `firsts`, which have pairwise
different keys. -/
def repeatsAfter {α κ : Type} [BEq κ] (key : α → κ) (firsts : List α) : List α → List (α × α)
  | [] => []
  | x :: xs =>
    match firsts.find? (key · == key x) with
    | some first => (x, first) :: repeatsAfter key firsts xs
    | none => repeatsAfter key (firsts ++ [x]) xs

/-- Each element whose key occurs before it, with the first element of that key, in order. -/
def repeats {α κ : Type} [BEq κ] (key : α → κ) (xs : List α) : List (α × α) :=
  repeatsAfter key [] xs

end OpsLint
