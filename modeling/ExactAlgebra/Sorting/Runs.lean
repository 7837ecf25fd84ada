import ExactAlgebra.Sorting.Merging

/-!
# Sorting values that need not be comparable

A sort whose comparison may fail, in which case sorting fails. A list can be sorted
when the elements that meet can be compared, so it matters which do.

The list is cut into runs, rising or strictly falling. A run that is too short is
lengthened by putting the next elements into their places, which are found by
halving. Runs are merged with their neighbours, in an order that is near to that of
a balanced tree over the list.
-/

namespace ExactAlgebra
namespace Sorting

/-- The elements that continue a run after `last`, and those after the run. In a
falling run every element is less than the one before it; in a rising run none
is. -/
def continueRun (less? : α → α → Option Bool) (falling : Bool) (last : α) :
    List α → Option (List α × List α)
  | [] => some ([], [])
  | next :: rest => do
      let below ← less? next last
      if below = falling then
        let (run, others) ← continueRun less? falling next rest
        return (next :: run, others)
      else return ([], next :: rest)

/-- The run at the front of a list in rising order, and the elements after it. -/
def firstRun (less? : α → α → Option Bool) : List α → Option (List α × List α)
  | first :: second :: rest => do
      let falling ← less? second first
      let (run, others) ← continueRun less? falling second rest
      let whole := first :: second :: run
      return (if falling then whole.reverse else whole, others)
  | short => some (short, [])

/-- Put elements into their places one by one, each after all elements that it is
not less than. -/
def insertAll? (less? : α → α → Option Bool) (sorted : List α) : List α → Option (List α)
  | [] => some sorted
  | element :: others => do
      let passes? := passesAt (fun other => (less? element other).map (!·)) sorted
      let place ← halve .forward passes? 0 sorted.length
      insertAll? less? (sorted.take place ++ element :: sorted.drop place) others

/-- The least length of a run: the size halved until it is below this bound. -/
def runBound : Nat := 64

/-- The size halved until it is below the bound, and rounded up. -/
def halvedSize (lost size : Nat) : Nat :=
  if size < runBound then size + lost else halvedSize (max lost (size % 2)) (size / 2)
termination_by size
decreasing_by
  simp only [runBound] at *
  omega

/-- The least length of a run in a list of the given size, so that the number of
runs is a power of two or a little less. -/
def leastRun (size : Nat) : Nat :=
  halvedSize 0 size

/-- The next run of a list, lengthened to the least length, and the elements after
it. -/
def nextRun (less? : α → α → Option Bool) (least : Nat) (list : List α) :
    Option (List α × List α) := do
  let (run, others) ← firstRun less? list
  let missing := least - run.length
  let longer ← insertAll? less? run (others.take missing)
  return (longer, others.drop missing)

/-- The depth at which two points, given in halves of an element, are parted when a
list of the given size is halved again and again. -/
def partingDepth (size left right : Nat) : Nat :=
  if left / size ≠ right / size then 1
  else if left < right ∧ right - left < size then
    partingDepth size (2 * left) (2 * right) + 1
  else 1
termination_by size - (right - left)
decreasing_by omega

/-- A run that waits to be merged. -/
structure Pending (α : Type) where
  /-- The place of its first element in the list. -/
  start : Nat
  elements : List α
  /-- The depth at which it is parted from the run after it. -/
  depth : Nat

namespace Pending

/-- The run of two neighbours. -/
def merge? (less? : α → α → Option Bool) (threshold : Nat) (left right : Pending α) :
    Option (Pending α × Nat) := do
  let (merged, next) ← mergeRuns? less? threshold left.elements right.elements
  return ({ left with elements := merged, depth := right.depth }, next)

/-- Merge the latest runs as long as they are parted more deeply than `depth`. The
latest run stands first. -/
def collapse (less? : α → α → Option Bool) (depth threshold : Nat) (waiting : List (Pending α)) :
    Option (List (Pending α) × Nat) :=
  match waiting with
  | latest :: earlier :: others =>
      if depth < earlier.depth then
        match earlier.merge? less? threshold latest with
        | none => none
        | some (merged, next) => collapse less? depth next (merged :: others)
      else some (latest :: earlier :: others, threshold)
  | waiting => some (waiting, threshold)
termination_by waiting.length

/-- Put a new run behind those that wait. -/
def push (less? : α → α → Option Bool) (size threshold : Nat) (run : Pending α) :
    List (Pending α) → Option (List (Pending α) × Nat)
  | [] => some ([run], threshold)
  | latest :: others => do
      let length := latest.elements.length
      let middle := 2 * latest.start + length
      let depth := partingDepth size middle (middle + length + run.elements.length)
      let (waiting, next) ← collapse less? depth threshold (latest :: others)
      match waiting with
      | [] => return ([run], next)
      | last :: rest => return (run :: { last with depth := depth } :: rest, next)

/-- Merge all runs that wait. Of three runs, the one in the middle joins the shorter
of its neighbours. -/
def finish (less? : α → α → Option Bool) (threshold : Nat) (waiting : List (Pending α)) :
    Option (List α) :=
  match waiting with
  | [] => some []
  | [run] => some run.elements
  | [latest, earlier] =>
      (earlier.merge? less? threshold latest).map fun merged => merged.1.elements
  | latest :: middle :: first :: others =>
      if first.elements.length < latest.elements.length then
        match first.merge? less? threshold middle with
        | none => none
        | some (merged, next) => finish less? next (latest :: merged :: others)
      else
        match middle.merge? less? threshold latest with
        | none => none
        | some (merged, next) => finish less? next (merged :: first :: others)
termination_by waiting.length

/-- Cut the rest of a list into runs, and merge them as they come. Every run takes
an element, so it is enough to allow as many runs as there are elements. -/
def sortRest (less? : α → α → Option Bool) (size : Nat) :
    Nat → Nat → List (Pending α) → List α → Option (List α)
  | 0, threshold, waiting, _ => finish less? threshold waiting
  | _, threshold, waiting, [] => finish less? threshold waiting
  | runs + 1, threshold, waiting, list => do
      let (run, others) ← nextRun less? (leastRun size) list
      let pending := { start := size - list.length, elements := run, depth := 0 }
      let (next, raised) ← push less? size threshold pending waiting
      sortRest less? size runs raised next others

end Pending

/-- Sort a list, or fail when two elements that meet cannot be compared. -/
def sort? (less? : α → α → Option Bool) (list : List α) : Option (List α) :=
  Pending.sortRest less? list.length list.length worthwhile [] list

end Sorting
end ExactAlgebra
