/-!
# Galloping

How many elements at the front of a list pass a test, when those that pass are
known to stand before those that do not. Few elements are looked at: first those at
places that double, until one does not pass, and then those found by halving what
is left. The test may fail, and then there is no answer.
-/

namespace ExactAlgebra
namespace Sorting

/-- A list is taken from its front, or turned around and taken from its end. This
decides which of two middle places is looked at. -/
inductive Direction
  | forward
  | backward
  deriving DecidableEq

/-- The middle place between `low` and `high`: of two, the later one in a list that
is taken from its front, and the earlier one in a list that is turned around. -/
def Direction.middle (direction : Direction) (low high : Nat) : Nat :=
  match direction with
  | .forward => low + (high - low) / 2
  | .backward => low + (high - low - 1) / 2

/-- The element at a place passes; a place behind the list does not. -/
def passesAt (passes? : α → Option Bool) (list : List α) (place : Nat) : Option Bool :=
  match list[place]? with
  | some element => passes? element
  | none => some false

/-- The number of leading places that pass, which is at least `low` and at most
`high`, by halving. -/
def halve (direction : Direction) (passes? : Nat → Option Bool) (low high : Nat) :
    Option Nat :=
  if low < high then
    match passes? (direction.middle low high) with
    | none => none
    | some true => halve direction passes? (direction.middle low high + 1) high
    | some false => halve direction passes? low (direction.middle low high)
  else some low
termination_by high - low
decreasing_by
  · cases direction <;> simp only [Direction.middle] <;> omega
  · cases direction <;> simp only [Direction.middle] <;> omega

/-- The last place that passes and the first one that does not, among places that
double from `next` on. The end of the list counts as a place that does not pass. -/
def reach (passes? : Nat → Option Bool) (size last next : Nat) : Option (Nat × Nat) :=
  if next < size then
    match passes? next with
    | none => none
    | some true => reach passes? size next (2 * next + 1)
    | some false => some (last, next)
  else some (last, size)
termination_by size - next
decreasing_by omega

/-- The number of elements at the front of a list that pass. -/
def leading (direction : Direction) (passes? : α → Option Bool) (list : List α) :
    Option Nat := do
  if ← passesAt passes? list 0 then
    let (last, next) ← reach (passesAt passes? list) list.length 0 1
    halve direction (passesAt passes? list) (last + 1) next
  else return 0

end Sorting
end ExactAlgebra
