import ExactAlgebra.Proofs.Derivative.Value
import ExactAlgebra.Proofs.Renaming.Simplification

/-!
# Derivatives and renaming

The rules for sums and products go over the operands in their order: they leave out terms
that are zero, set constant factors apart, and derive one factor after the other. They
give the same operands in any order, and the results are arranged anew. So the derivative
of a renamed expression with respect to a renamed variable is the renamed derivative, as
soon as no other variable gets the name of that one.
-/

namespace ExactAlgebra
namespace Derivative

open ExactAlgebra.Expr

/-! ## Picks in another order -/

theorem picks_map (image : α → β) (members : List α) :
    picks (members.map image) = (picks members).map (Prod.map image (List.map image)) := by
  induction members with
  | nil => rfl
  | cons first others hypothesis =>
      rw [List.map_cons, picks, hypothesis, picks, List.map_cons, List.map_map, List.map_map]
      rfl

/-- What does not depend on the order of the others is made of all picks in any order. -/
theorem map_picks_perm
    {make : α × List α → β}
    (unordered : ∀ member left right, left.Perm right → make (member, left) = make (member, right))
    {lefts rights : List α}
    (perm : lefts.Perm rights) :
    ((picks lefts).map make).Perm ((picks rights).map make) := by
  induction perm generalizing make with
  | nil => exact .nil
  | cons first others hypothesis =>
      rw [picks, picks, List.map_cons, List.map_cons, List.map_map, List.map_map,
        unordered first _ _ others]
      exact .cons _ (hypothesis fun member left right perm => unordered _ _ _ (perm.cons first))
  | swap first second others =>
      have swapped (pick : α × List α) :
          make (pick.1, second :: first :: pick.2) = make (pick.1, first :: second :: pick.2) :=
        unordered _ _ _ (.swap first second pick.2)
      simp only [picks, List.map_cons, List.map_map, Function.comp_def, swapped]
      exact .swap _ _ _
  | trans _ _ first second => exact (first unordered).trans (second unordered)

section Rename

variable (relabel : Symbol → Symbol)

/-! ## The rules -/

/-- Terms that are zero are renamed to zero, and no others. -/
theorem filter_ne_zero_perm_rename
    {lefts rights : List Expr}
    (perm : lefts.Perm (rights.map (rename relabel))) :
    (lefts.filter (· ≠ 0)).Perm ((rights.filter (· ≠ 0)).map (rename relabel)) :=
  filter_perm_map perm fun term => by simp

/-- The product rule does not depend on the order of the operands. -/
theorem productRule_rename
    {lefts rights : List (Expr × Expr)}
    (perm : lefts.Perm (rights.map (Prod.map (rename relabel) (rename relabel)))) :
    productRule lefts = (productRule rights).rename relabel := by
  have constants : ((lefts.filter fun pair => pair.2 = 0).map Prod.fst).Perm
      (((rights.filter fun pair => pair.2 = 0).map Prod.fst).map (rename relabel)) := by
    have kept : (lefts.filter fun pair => pair.2 = 0).Perm
        ((rights.filter fun pair => pair.2 = 0).map
          (Prod.map (rename relabel) (rename relabel))) :=
      filter_perm_map perm fun pair => by simp
    simpa only [List.map_map, Function.comp_def, Prod.map_fst] using kept.map Prod.fst
  have varying : (lefts.filter fun pair => pair.2 ≠ 0).Perm
      ((rights.filter fun pair => pair.2 ≠ 0).map
        (Prod.map (rename relabel) (rename relabel))) :=
    filter_perm_map perm fun pair => by simp
  unfold productRule
  dsimp only
  generalize (lefts.filter fun pair => pair.2 ≠ 0) = leftVarying at varying ⊢
  generalize (rights.filter fun pair => pair.2 ≠ 0) = rightVarying at varying ⊢
  match rightVarying, leftVarying, varying.length_eq with
  | [], [], _ => exact (rename_number relabel 0).symm
  | [(operand, derivative)], [_], _ =>
      cases List.singleton_perm_singleton.mp varying
      rw [rename_productOf, List.map_append]
      exact productOf_perm (constants.append_right _)
  | first :: second :: others, firstLeft :: secondLeft :: othersLeft, _ =>
      dsimp only
      rw [rename_sumOf, List.map_map]
      apply sumOf_perm
      refine (map_picks_perm (fun member left right same => ?_) varying).trans ?_
      · exact productOf_perm ((same.map _).append_right _)
      · rw [picks_map, List.map_map]
        refine .of_eq (List.map_congr_left fun pick _ => ?_)
        rw [Function.comp_apply, Function.comp_apply, rename_productOf, List.map_append,
          List.map_cons, List.map_map]
        refine productOf_perm (.append (.of_eq ?_) (constants.cons _))
        exact List.map_map

theorem powerRule_rename (base inner : Expr) (exponent : Fraction) :
    powerRule (base.rename relabel) exponent (inner.rename relabel) =
      (powerRule base exponent inner).rename relabel := by
  unfold powerRule
  by_cases isZero : inner = 0
  · rw [if_pos isZero, if_pos ((rename_eq_zero_iff relabel).mpr isZero)]
    exact (rename_number relabel 0).symm
  · rw [if_neg isZero, if_neg (mt (rename_eq_zero_iff relabel).mp isZero)]
    by_cases isOne : inner = 1
    · rw [if_pos isOne, if_pos ((rename_eq_one_iff relabel).mpr isOne), rename_productOf]
      simp
    · rw [if_neg isOne, if_neg (mt (rename_eq_one_iff relabel).mp isOne), rename_productOf]
      simp

end Rename

/-- Operands are paired with their own derivatives. -/
theorem zip_derivatives (target : Symbol) (operands : List Expr) :
    operands.zip (derivatives target operands) =
      operands.map fun operand => (operand, operand.derivative target) := by
  have zipped := @List.zip_map' _ _ _ id (derivative target) operands
  rwa [List.map_id, ← derivatives_eq_map] at zipped

end Derivative

namespace Expr

open ExactAlgebra.Derivative

/-- The derivative of a renamed expression is the renamed derivative. -/
theorem derivative_rename
    {relabel : Symbol → Symbol}
    (injective : Function.Injective relabel)
    (target : Symbol)
    (expr : Expr) :
    (expr.rename relabel).derivative (relabel target) =
      (expr.derivative target).rename relabel := by
  induction expr with
  | number value => rw [rename_number, derivative, derivative]; exact (rename_number relabel 0).symm
  | symbol name =>
      rw [rename_symbol, derivative, derivative]
      by_cases isTarget : name = target
      · rw [if_pos isTarget, if_pos (congrArg relabel isTarget)]
        exact (rename_number relabel 1).symm
      · rw [if_neg isTarget, if_neg (injective.ne isTarget)]
        exact (rename_number relabel 0).symm
  | sum operands hypothesis =>
      have derived : (operands.map (rename relabel)).map (derivative (relabel target)) =
          (operands.map (derivative target)).map (rename relabel) := by
        rw [List.map_map, List.map_map]
        exact List.map_congr_left hypothesis
      have perm := ((perm_arrange (operands.map (rename relabel))).map
        (derivative (relabel target))).trans (.of_eq derived)
      rw [rename_sum, sumOf, derivative, derivative, derivatives_eq_map, derivatives_eq_map,
        rename_sumOfTerms]
      exact sumOfTerms_perm (filter_ne_zero_perm_rename relabel perm)
  | product operands hypothesis =>
      rw [rename_product, productOf, derivative, derivative, zip_derivatives, zip_derivatives]
      apply productRule_rename
      refine ((perm_arrange _).map _).trans (.of_eq ?_)
      rw [List.map_map, List.map_map]
      exact List.map_congr_left fun operand member =>
        Prod.ext rfl (hypothesis operand member)
  | power base exponent hypothesis =>
      rw [rename_power, derivative, derivative]
      by_cases isZero : exponent = 0
      · rw [if_pos isZero, if_pos isZero]
        exact (rename_number relabel 0).symm
      · rw [if_neg isZero, if_neg isZero]
        by_cases isOne : exponent = 1
        · rw [if_pos isOne, if_pos isOne, hypothesis]
        · rw [if_neg isOne, if_neg isOne, hypothesis, powerRule_rename]

/-- The choice of variable names does not influence the passes. A one-to-one renaming turns
an expression that can be simplified into one that can, with the renamed result, and an
expression that cannot into one that cannot. It turns derivatives into derivatives. -/
theorem passes_rename
    {relabel : Symbol → Symbol}
    (injective : Function.Injective relabel)
    {expr : Expr}
    (wellFormed : WellFormed expr) :
    ((∃ result, (expr.rename relabel).simplify = .ok result) ↔
        ∃ result, expr.simplify = .ok result) ∧
      (∀ result, expr.simplify = .ok result →
        (expr.rename relabel).simplify = .ok (result.rename relabel)) ∧
      ∀ target, (expr.rename relabel).derivative (relabel target) =
        (expr.derivative target).rename relabel := by
  have alike := endAlike_simplify_rename injective wellFormed
  refine ⟨alike.exists_ok_iff, fun result success => ?_, fun target => ?_⟩
  · rw [success] at alike
    generalize (expr.rename relabel).simplify = renamed at alike ⊢
    cases alike with
    | ok isRenamed => exact congrArg Except.ok isRenamed
  · exact derivative_rename injective target expr

/-- The product `x * x * y^2 * y`. -/
def squareTimesCube : Expr :=
  productOf [symbol .x, symbol .x, power (symbol .y) 2, symbol .y]

/-- With `x` and `y` exchanged the factors of the result change places. -/
theorem passes_rename_squareTimesCube :
    Function.Injective (Equiv.swap Symbol.x Symbol.y) ∧ WellFormed squareTimesCube ∧
      squareTimesCube.simplify =
        .ok (product [power (symbol .x) (.ofInt 2), power (symbol .y) (.ofInt 3)]) ∧
      (squareTimesCube.rename (Equiv.swap .x .y)).simplify =
        .ok (product [power (symbol .x) (.ofInt 3), power (symbol .y) (.ofInt 2)]) ∧
      (squareTimesCube.rename (Equiv.swap .x .y)).derivative .y =
        (squareTimesCube.derivative .x).rename (Equiv.swap .x .y) := by
  have injective := (Equiv.swap Symbol.x Symbol.y).injective
  have wellFormed : WellFormed squareTimesCube := by decide +kernel
  have success : squareTimesCube.simplify =
      .ok (product [power (symbol .x) (.ofInt 2), power (symbol .y) (.ofInt 3)]) := by
    decide +kernel
  obtain ⟨_, simplified, derived⟩ := passes_rename injective wellFormed
  refine ⟨injective, wellFormed, success, ?_, ?_⟩
  · rw [simplified _ success]
    decide +kernel
  · have exchanged := derived .x
    rwa [Equiv.swap_apply_left] at exchanged

end Expr
end ExactAlgebra
