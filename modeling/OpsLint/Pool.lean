import OpsLint.Files.Path

/-!
# Pools of workers

The targets of a run are handed to a **pool** of workers. A free worker takes up the target that has
waited longest and works on it until it is finished. On some targets a worker works for ever; the
others are then left to the remaining workers, if there are any.

A run does not see the pool at all times. It looks at it when it is about to wait, and again when it
has waited, and only then does it ask which targets are finished. What it sees is the **course**
that the run takes.
-/

namespace OpsLint

/-- The targets of a run at some moment. -/
structure Pool where
  /-- The targets that wait for a worker, in the order in which they are taken up. -/
  waiting : List Path
  /-- The targets that are being worked on. -/
  running : List Path := []
  /-- The targets that are finished, the last one first. -/
  finished : List Path := []

namespace Pool

/-- A pool to which targets have been handed. -/
def start (targets : List Path) : Pool := { waiting := targets }

/-- The targets that are not finished, whether a worker has taken them up or not. -/
def unfinished (pool : Pool) : List Path := pool.waiting ++ pool.running

/-- Lets the workers of a pool do all that they can, one target after another: those that end are
finished when they are taken up, and each `endless` one keeps a worker. -/
def settle (workers : Nat) (endless : Path → Bool) : (waiting running finished : List Path) → Pool
  | [], running, finished => ⟨[], running, finished⟩
  | p :: waiting, running, finished =>
    if workers ≤ running.length then ⟨p :: waiting, running, finished⟩
    else if endless p then settle workers endless waiting (p :: running) finished
    else settle workers endless waiting running (p :: finished)

end Pool

/-- What a run sees of its targets. -/
structure Course where
  /-- The targets when the run is about to wait. -/
  first : Pool
  /-- The targets that are finished when it has waited, in the order in which it looks at them. -/
  done : List Path
  /-- The targets that are not, in the order in which it looks at them. -/
  pending : List Path

end OpsLint
