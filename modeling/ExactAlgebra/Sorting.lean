/-!
# Sorting

A merge sort whose recursion is on the lengths of lists, so that sorted lists of
concrete operands can be computed inside a proof. Sorting permutes the list, and
for a total and transitive order the result is sorted.
-/

namespace ExactAlgebra
namespace Sorting

/-- Merge two lists, taking from the left one when the order allows it. -/
def merge (le : α → α → Bool) (left right : List α) : List α :=
  match left, right with
  | [], right => right
  | left, [] => left
  | first :: left, second :: right =>
      if le first second then first :: merge le left (second :: right)
      else second :: merge le (first :: left) right
termination_by left.length + right.length

/-- Split a list in halves, sort them and merge the results. -/
def sort (le : α → α → Bool) (list : List α) : List α :=
  if list.length ≤ 1 then list
  else
    merge le
      (sort le (list.take (list.length / 2)))
      (sort le (list.drop (list.length / 2)))
termination_by list.length
decreasing_by
  · simp only [List.length_take]
    omega
  · simp only [List.length_drop]
    omega

theorem perm_merge (le : α → α → Bool) (left right : List α) :
    (merge le left right).Perm (left ++ right) := by
  fun_induction merge le left right with
  | case1 right => simp
  | case2 left nonempty => simp
  | case3 first left second right ordered hypothesis =>
      exact hypothesis.cons first
  | case4 first left second right unordered hypothesis =>
      exact (hypothesis.cons second).trans List.perm_middle.symm

/-- Sorting permutes the list. -/
theorem perm_sort (le : α → α → Bool) (list : List α) :
    (sort le list).Perm list := by
  fun_induction sort le list with
  | case1 list short => exact List.Perm.refl list
  | case2 list long leftHypothesis rightHypothesis =>
      refine (perm_merge le _ _).trans ((leftHypothesis.append rightHypothesis).trans ?_)
      rw [List.take_append_drop]

@[simp] theorem length_sort (le : α → α → Bool) (list : List α) :
    (sort le list).length = list.length :=
  (perm_sort le list).length_eq

@[simp] theorem mem_sort {le : α → α → Bool} {list : List α} {element : α} :
    element ∈ sort le list ↔ element ∈ list :=
  (perm_sort le list).mem_iff

/-- Merging by what the elements are mapped to is merging what they are mapped to. -/
theorem map_merge (image : α → β) (le : β → β → Bool) (left right : List α) :
    (merge (fun first second => le (image first) (image second)) left right).map image =
      merge le (left.map image) (right.map image) := by
  fun_induction merge (fun first second => le (image first) (image second)) left right with
  | case1 right => rw [List.map_nil, merge]
  | case2 left nonempty =>
      cases left with
      | nil => exact absurd rfl nonempty
      | cons first left => rw [List.map_nil, List.map_cons, merge]; exact nofun
  | case3 first left second right ordered hypothesis =>
      rw [List.map_cons, hypothesis, List.map_cons, List.map_cons, merge, if_pos ordered]
  | case4 first left second right unordered hypothesis =>
      rw [List.map_cons, hypothesis, List.map_cons, List.map_cons, merge, if_neg unordered]

/-- Sorting by what the elements are mapped to is sorting what they are mapped to. -/
theorem map_sort (image : α → β) (le : β → β → Bool) (list : List α) :
    (sort (fun first second => le (image first) (image second)) list).map image =
      sort le (list.map image) := by
  fun_induction sort (fun first second => le (image first) (image second)) list with
  | case1 list short => rw [sort, List.length_map, if_pos short]
  | case2 list long leftHypothesis rightHypothesis =>
      have halved : sort le (list.map image) =
          merge le (sort le ((list.map image).take (list.length / 2)))
            (sort le ((list.map image).drop (list.length / 2))) := by
        rw [sort, List.length_map, if_neg long]
      rw [map_merge, leftHypothesis, rightHypothesis, halved, List.map_take, List.map_drop]

/-- Merging sorted lists gives a sorted list. -/
theorem pairwise_merge
    {le : α → α → Bool}
    (trans : ∀ first second third, le first second → le second third → le first third)
    (total : ∀ first second, le first second || le second first)
    {left right : List α}
    (leftSorted : left.Pairwise (le · ·))
    (rightSorted : right.Pairwise (le · ·)) :
    (merge le left right).Pairwise (le · ·) := by
  fun_induction merge le left right with
  | case1 right => exact rightSorted
  | case2 left nonempty => exact leftSorted
  | case3 first left second right ordered hypothesis =>
      rw [List.pairwise_cons] at leftSorted
      refine List.pairwise_cons.mpr ⟨?_, hypothesis leftSorted.2 rightSorted⟩
      intro element member
      rcases List.mem_append.mp ((perm_merge le left (second :: right)).mem_iff.mp member) with
        inLeft | inRight
      · exact leftSorted.1 element inLeft
      · rcases List.mem_cons.mp inRight with equal | inTail
        · exact equal ▸ ordered
        · exact trans _ _ _ ordered ((List.pairwise_cons.mp rightSorted).1 element inTail)
  | case4 first left second right unordered hypothesis =>
      rw [List.pairwise_cons] at rightSorted
      have reversed : le second first := by
        have either := total first second
        simp only [Bool.or_eq_true] at either
        exact either.resolve_left unordered
      refine List.pairwise_cons.mpr ⟨?_, hypothesis leftSorted rightSorted.2⟩
      intro element member
      rcases List.mem_append.mp ((perm_merge le (first :: left) right).mem_iff.mp member) with
        inLeft | inRight
      · rcases List.mem_cons.mp inLeft with equal | inTail
        · exact equal ▸ reversed
        · exact trans _ _ _ reversed ((List.pairwise_cons.mp leftSorted).1 element inTail)
      · exact rightSorted.1 element inRight

/-- The result of sorting is sorted. -/
theorem pairwise_sort
    {le : α → α → Bool}
    (trans : ∀ first second third, le first second → le second third → le first third)
    (total : ∀ first second, le first second || le second first)
    (list : List α) :
    (sort le list).Pairwise (le · ·) := by
  fun_induction sort le list with
  | case1 list short =>
      match list, short with
      | [], _ => exact List.Pairwise.nil
      | [element], _ => exact List.pairwise_singleton _ element
  | case2 list long leftHypothesis rightHypothesis =>
      exact pairwise_merge trans total leftHypothesis rightHypothesis

end Sorting
end ExactAlgebra
