/-!
# Sorting by binary insertion

The run at the front of a list, ascending or strictly descending, is taken as sorted; each further
element goes to a place found by binary search, behind its equals. Comparisons may fail, and the
first one that does ends the sort.

The runtime sorts so.
-/

namespace Aliquot.BinaryInsertion

variable {ε α : Type} (lt : α → α → Except ε Bool)

/-- The place of `x` among the positions from `low` to `high` of an ascending list: behind all that
`x` is not below. -/
def place (sorted : List α) (x : α) (low high : Nat) : Except ε Nat :=
  if h : low < high ∧ high ≤ sorted.length then do
    let middle := low + (high - low) / 2
    have hm : middle < sorted.length := by omega
    if ← lt x sorted[middle] then place sorted x low middle
    else place sorted x (middle + 1) high
  else .ok low
termination_by high - low

/-- The element `x` put into an ascending list. -/
def insert (sorted : List α) (x : α) : Except ε (List α) := do
  let position ← place lt sorted x 0 sorted.length
  return sorted.insertIdx position x

/-- Splits a list after the elements of which each one is, or is not, below the one before. -/
def splitRun (descending : Bool) (last : α) : List α → Except ε (List α × List α)
  | [] => .ok ([], [])
  | x :: xs => do
    if (← lt x last) == descending then
      let (run, rest) ← splitRun descending x xs
      return (x :: run, rest)
    else return ([], x :: xs)

/-- The elements in ascending order, equals in the order given. -/
def sort : List α → Except ε (List α)
  | x :: y :: rest => do
    let descending ← lt y x
    let (run, rest) ← splitRun lt descending y rest
    let front := x :: y :: run
    rest.foldlM (insert lt) (if descending then front.reverse else front)
  | xs => .ok xs

end Aliquot.BinaryInsertion
