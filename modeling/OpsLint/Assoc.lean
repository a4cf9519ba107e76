/-!
# Lists of keys and values

A table whose keys have an order: that in which they were first put into it. Putting a value under a
key that is there already replaces the value and keeps the place of the key.
-/

namespace OpsLint.Assoc

variable {κ α : Type}

/-- Puts a value under a key, where `same` says which keys are the same. The key that was there
first is kept. -/
def putBy (same : κ → κ → Bool) (key : κ) (value : α) : List (κ × α) → List (κ × α)
  | [] => [(key, value)]
  | (k, v) :: rest => if same k key then (k, value) :: rest else (k, v) :: putBy same key value rest

/-- Puts a value under a key. -/
def put [BEq κ] (key : κ) (value : α) (table : List (κ × α)) : List (κ × α) :=
  putBy (· == ·) key value table

/-- Changes the value under a key, which is `fallback` if there is none. -/
def modify [BEq κ] (key : κ) (fallback : α) (f : α → α) (table : List (κ × α)) : List (κ × α) :=
  put key (f ((table.lookup key).getD fallback)) table

end OpsLint.Assoc
