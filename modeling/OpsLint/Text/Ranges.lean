/-!
# Ranges of characters

A class of characters is a table of ranges of character codes. A character belongs to the class if
some range holds its code. The tables list what lies beyond ASCII; within ASCII each class has a
test of its own, which is what nearly every character of a configuration file meets.
-/

namespace OpsLint.Text

/-- The code of `c` lies in one of the ranges, ends included. -/
def inRanges (table : List (Nat × Nat)) (c : Char) : Bool :=
  let n := c.toNat
  table.any fun r => r.1 ≤ n && n ≤ r.2

end OpsLint.Text
