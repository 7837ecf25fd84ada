import ExactAlgebra.Sorting.Gallop

/-!
# Merging two runs

Two sorted runs are merged by taking the lesser of the elements at their fronts, or
the greater of those at their ends. When one run wins often enough in a row, the
merge gallops: it looks for all the elements that can be taken from a run at once.
How often is enough depends on how well galloping did before, so this threshold
goes from one merge to the next.

Which elements are compared matters because a comparison may fail. The merge of the
whole fails when one of its comparisons does.
-/

namespace ExactAlgebra
namespace Sorting

/-- Galloping goes on while it finds this many elements at once. -/
def worthwhile : Nat := 7

/-- How the elements of two runs compete. -/
structure Rule (α : Type) where
  /-- The element of the long run is taken before that of the short run. -/
  longFirst? : α → α → Option Bool
  direction : Direction

/-- Two runs on their way into one. The short run has more than one element, and
the long one is not empty, as long as the contest goes on. -/
structure Contest (α : Type) where
  short : List α
  long : List α
  /-- What has been taken from both runs, the latest first. -/
  taken : List α

/-- What a turn of a contest leads to. -/
inductive Turn (α : Type)
  | finished (merged : List α)
  | ongoing (contest : Contest α)

namespace Contest

/-- Take elements from the front of the short run. A lone element that is left
belongs behind the long run. -/
def takeShort (count : Nat) (contest : Contest α) : Turn α :=
  let taken := (contest.short.take count).reverse ++ contest.taken
  match contest.short.drop count with
  | [] => .finished (taken.reverse ++ contest.long)
  | [element] => .finished (taken.reverse ++ (contest.long ++ [element]))
  | short => .ongoing { contest with short := short, taken := taken }

/-- Take elements from the front of the long run. -/
def takeLong (count : Nat) (contest : Contest α) : Turn α :=
  let taken := (contest.long.take count).reverse ++ contest.taken
  match contest.long.drop count with
  | [] => .finished (taken.reverse ++ contest.short)
  | long => .ongoing { contest with long := long, taken := taken }

/-- The number of elements at the front of the short run that belong before the
long run. -/
def shortLead (rule : Rule α) (contest : Contest α) : Option Nat :=
  match contest.long with
  | [] => some 0
  | first :: _ =>
      leading rule.direction (fun element => (rule.longFirst? element first).map (!·))
        contest.short

/-- The number of elements at the front of the long run that belong before the
short run. -/
def longLead (rule : Rule α) (contest : Contest α) : Option Nat :=
  match contest.short with
  | [] => some 0
  | first :: _ => leading rule.direction (rule.longFirst? first) contest.long

end Contest

namespace Turn

/-- Go on with a contest that is not finished. -/
def andThen (turn : Turn α) (next : Contest α → Turn α) : Turn α :=
  match turn with
  | finished merged => finished merged
  | .ongoing contest => next contest

end Turn

namespace Contest

/-- Take all elements of the short run that belong before the long run, and then
the first of the long run. Tell how many there were. -/
def pullShort (rule : Rule α) (contest : Contest α) : Option (Nat × Turn α) := do
  let count ← contest.shortLead rule
  return (count, (contest.takeShort count).andThen (takeLong 1))

/-- Take all elements of the long run that belong before the short run, and then
the first of the short run. Tell how many there were. -/
def pullLong (rule : Rule α) (contest : Contest α) : Option (Nat × Turn α) := do
  let count ← contest.longLead rule
  return (count, (contest.takeLong count).andThen (takeShort 1))

/-- Gallop in both runs, first in the one that comes first in the list. Tell the
greater number of elements that were taken at once. -/
def gallop (rule : Rule α) (contest : Contest α) : Option (Nat × Turn α) := do
  let (pullFirst, pullSecond) :=
    match rule.direction with
    | .forward => (pullShort rule, pullLong rule)
    | .backward => (pullLong rule, pullShort rule)
  match ← pullFirst contest with
  | (count, .finished merged) => return (count, .finished merged)
  | (count, .ongoing next) =>
      let (other, turn) ← pullSecond next
      return (max count other, turn)

end Contest

/-- How a contest is held: one element at a time, with the number of times that the
short or the long run has just won, or galloping. -/
inductive Pace
  | single (shortWins longWins : Nat)
  | galloping

namespace Contest

/-- Hold a contest with the given threshold for galloping. The merged run comes
with the threshold for the next contest. Every turn takes an element, so it is
enough to allow as many turns as there are elements. -/
def play (rule : Rule α) : Nat → Nat → Pace → Contest α → Option (List α × Nat)
  | 0, threshold, _, contest =>
      some (contest.taken.reverse ++ (contest.short ++ contest.long), threshold)
  | turns + 1, threshold, .single shortWins longWins, contest =>
      match contest.short, contest.long with
      | short :: _, long :: _ => do
          let longWon ← rule.longFirst? short long
          let wins := if longWon then longWins + 1 else shortWins + 1
          match if longWon then contest.takeLong 1 else contest.takeShort 1 with
          | .finished merged => return (merged, threshold)
          | .ongoing next =>
              if threshold ≤ wins then play rule turns (threshold + 1) .galloping next
              else if longWon then play rule turns threshold (.single 0 wins) next
              else play rule turns threshold (.single wins 0) next
      | short, long => some (contest.taken.reverse ++ (short ++ long), threshold)
  | turns + 1, threshold, .galloping, contest => do
      let lowered := max 1 (threshold - 1)
      match ← contest.gallop rule with
      | (_, .finished merged) => return (merged, lowered)
      | (count, .ongoing next) =>
          if worthwhile ≤ count then play rule turns lowered .galloping next
          else play rule turns (lowered + 1) (.single 0 0) next

/-- Hold a contest whose first element is that of the long run. -/
def start (rule : Rule α) (threshold : Nat) (short long : List α) :
    Option (List α × Nat) :=
  let contest : Contest α := { short := short, long := long, taken := [] }
  match (contest.takeLong 1).andThen (takeShort 0) with
  | .finished merged => some (merged, threshold)
  | .ongoing next => next.play rule (short.length + long.length) threshold (.single 0 0)

end Contest

/-- Merge two sorted runs that follow one another in a list. What is in its place
already, in front of the first element of the right run and behind the last element
of the left one, is left there. The shorter part is merged into the longer one. -/
def mergeRuns? (less? : α → α → Option Bool) (threshold : Nat) (left right : List α) :
    Option (List α × Nat) :=
  match right with
  | [] => some (left, threshold)
  | first :: _ => do
      let inPlace ← leading .forward (fun element => (less? first element).map (!·)) left
      let front := left.take inPlace
      let later := left.drop inPlace
      match later.getLast? with
      | none => return (left ++ right, threshold)
      | some last =>
          let falling := right.reverse
          let behind ← leading .backward (fun element => (less? element last).map (!·)) falling
          let back := (falling.take behind).reverse
          let earlier := falling.drop behind
          if earlier.isEmpty then return (left ++ right, threshold)
          else if later.length ≤ earlier.length then
            let rule := { longFirst? := fun short long => less? long short, direction := .forward }
            let (merged, next) ← Contest.start rule threshold later earlier.reverse
            return (front ++ (merged ++ back), next)
          else
            let rule := { longFirst? := less?, direction := .backward }
            let (merged, next) ← Contest.start rule threshold earlier later.reverse
            return (front ++ (merged.reverse ++ back), next)

end Sorting
end ExactAlgebra
