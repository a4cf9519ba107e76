import OpsLint.Text.Basic

/-!
# Reading line by line

Every format here is read one physical line at a time. A **step** takes the number and the text of a
line and a state, and yields the next state and the items that this line completes. The state holds
what a later line can still depend on: an open quotation, a line to be continued, whether a section
has begun.

Reading a list of lines is a fold, so reading `a ++ b` is reading `b` from where `a` has led.
-/

namespace OpsLint

/-- What one line does to a reading: from its number, its text and the state before it, the state
after it and the items it completes. -/
abbrev LineStep (State Item : Type) := Nat → Text → State → State × List Item

/-- How far a reading has come. -/
structure Reading (State Item : Type) where
  state : State
  /-- The number of lines read. -/
  count : Nat := 0
  /-- The items completed, last item first. -/
  found : List Item := []

namespace Reading

variable {State Item : Type}

/-- Reads one more line. -/
def next (step : LineStep State Item) (r : Reading State Item) (text : Text) :
    Reading State Item :=
  let (state, items) := step (r.count + 1) text r.state
  { state, count := r.count + 1, found := items.reverse ++ r.found }

/-- Reads a list of lines. -/
def ofLines (step : LineStep State Item) (start : State) (lines : List Text) :
    Reading State Item :=
  lines.foldl (next step) { state := start }

/-- The items completed, in the order of the lines. -/
def items (r : Reading State Item) : List Item := r.found.reverse

end Reading

end OpsLint
