import ExactAlgebra.Proofs.Derivative.Value
import ExactAlgebra.Proofs.Simplify.CollectAgain
import Mathlib.Data.List.Permutation

/-!
# Linearity of differentiation

The derivative of `left + right` leaves out an operand whose derivative is zero, and the
derivative of the other operand then stands for itself. The sum of the two derivatives
keeps the zero. Simplification drops it, but collects the terms of the other derivative
once more on the way. So both simplify to the same expression if both derivatives are
zero, or neither is, and otherwise exactly when collecting the terms again changes nothing.
They always succeed together, with the same error if they fail.
-/

namespace ExactAlgebra
namespace Simplify

open ExactAlgebra.Expr

/-! ## Zero among terms -/

theorem constantTerm_append_zero (before after : List Expr) :
    constantTerm (before ++ 0 :: after) = constantTerm (before ++ after) := by
  have value : value? 0 = some 0 := rfl
  apply Fraction.toRat_injective
  simp only [constantTerm, toRat_foldl_add, List.filterMap_append, List.map_append,
    List.sum_append, List.filterMap_cons_some value, List.map_cons, List.sum_cons,
    Fraction.toRat_zero, zero_add]

/-- A zero among terms adds nothing to them. -/
theorem collectSum_append_zero (before after : List Expr) :
    collectSum (before ++ 0 :: after) = collectSum (before ++ after) := by
  have terms : termTally (before ++ 0 :: after) = termTally (before ++ after) := by
    rw [termTally, termTally, List.filter_append, List.filter_append,
      List.filter_cons_of_neg (by decide)]
  rw [collectSum, collectSum, constantTerm_append_zero, terms]

/-- Adding zero collects the terms of the simplified expression once more. -/
theorem simplify_sumOf_zero (expr : Expr) :
    (sumOf [0, expr]).simplify =
      expr.simplify >>= fun result => .ok (collectSum result.summands) := by
  have zero : simplify 0 = .ok 0 := (Settled.number 0).simplify_eq
  have first (result : Expr) :
      collectSum ([0, result].flatMap summands) = collectSum result.summands := by
    rw [List.flatMap_cons, List.flatMap_singleton]
    exact collectSum_append_zero [] result.summands
  have last (result : Expr) :
      collectSum ([result, 0].flatMap summands) = collectSum result.summands := by
    rw [List.flatMap_cons, List.flatMap_singleton]
    exact (collectSum_append_zero result.summands []).trans (by rw [List.append_nil])
  rw [simplify_eq_step, sumOf]
  -- The zero comes last if the other operand is a negative constant.
  rcases List.perm_pair.mp (perm_arrange [0, expr]) with ordered | ordered
  · rw [ordered, step, List.mapM_cons, List.mapM_cons, List.mapM_nil, zero]
    cases expr.simplify with
    | error cause => rfl
    | ok result => exact congrArg Except.ok (first result)
  · rw [ordered, step, List.mapM_cons, List.mapM_cons, List.mapM_nil, zero]
    cases expr.simplify with
    | error cause => rfl
    | ok result => exact congrArg Except.ok (last result)

end Simplify

namespace Expr

open Simplify

/-! ## Sums without their zeros -/

/-- The simplified sum of two expressions is the simplified sum of those that are not zero
if both are zero, or neither is. If only one is zero, the terms of the other are collected
once more. -/
theorem simplify_sumOf_pair (left right : Expr) :
    (sumOf [left, right]).simplify =
      if left = 0 ↔ right = 0 then (sumOfTerms ([left, right].filter (· ≠ 0))).simplify
      else (sumOfTerms ([left, right].filter (· ≠ 0))).simplify >>= fun result =>
        .ok (collectSum result.summands) := by
  by_cases leftZero : left = 0
  · subst leftZero
    by_cases rightZero : right = 0
    · subst rightZero
      decide +kernel
    · rw [if_neg (by simpa using rightZero), simplify_sumOf_zero]
      simp [rightZero, sumOfTerms]
  · by_cases rightZero : right = 0
    · subst rightZero
      rw [if_neg (by simpa using leftZero), sumOf_perm (List.Perm.swap 0 left []),
        simplify_sumOf_zero]
      simp [leftZero, sumOfTerms]
    · rw [if_pos (by simp [leftZero, rightZero])]
      simp [leftZero, rightZero, sumOfTerms]

/-- The derivative of a sum adds up the derivatives that are not zero. -/
theorem derivative_sumOf (target : Symbol) (operands : List Expr) :
    (sumOf operands).derivative target =
      sumOfTerms ((operands.map (derivative target)).filter (· ≠ 0)) := by
  rw [sumOf, derivative, Derivative.derivatives_eq_map]
  exact sumOfTerms_perm (((perm_arrange operands).map _).filter _)

/-! ## Linearity -/

/-- Simplifying the derivative of a sum of two expressions succeeds exactly when simplifying
the sum of their derivatives does. The two give the same exactly when both derivatives are
zero, or neither is, or the simplified derivative keeps its terms. -/
theorem simplify_derivative_sumOf_iff
    {left right : Expr}
    (leftWellFormed : WellFormed left)
    (rightWellFormed : WellFormed right)
    (target : Symbol) :
    ((∃ result, ((sumOf [left, right]).derivative target).simplify = .ok result) ↔
        ∃ result,
          (sumOf [left.derivative target, right.derivative target]).simplify = .ok result) ∧
      (((sumOf [left, right]).derivative target).simplify =
          (sumOf [left.derivative target, right.derivative target]).simplify ↔
        (left.derivative target = 0 ↔ right.derivative target = 0) ∨
          ∀ result, ((sumOf [left, right]).derivative target).simplify = .ok result →
            KeepsTerms result) := by
  have wellFormed : WellFormed (sumOf [left, right]) :=
    .sumOf (Nat.le_refl 2) (by simp [leftWellFormed, rightWellFormed])
  have derivativeWellFormed : WellFormed ((sumOf [left, right]).derivative target) :=
    (Checked.agreesOnWellFormed_derivative target _ wellFormed).meets _ rfl
  have apart : (sumOf [left, right]).derivative target =
      sumOfTerms ([left.derivative target, right.derivative target].filter (· ≠ 0)) :=
    derivative_sumOf target [left, right]
  rw [simplify_sumOf_pair, ← apart]
  by_cases alike : left.derivative target = 0 ↔ right.derivative target = 0
  · rw [if_pos alike]
    exact ⟨Iff.rfl, fun _ => .inl alike, fun _ => rfl⟩
  · rw [if_neg alike, or_iff_right alike]
    cases simplified : ((sumOf [left, right]).derivative target).simplify with
    | error cause => exact ⟨Iff.rfl, fun _ => nofun, fun _ => rfl⟩
    | ok result =>
        have kept := collectSum_summands_eq_iff
          (derivativeWellFormed.of_simplify_eq_ok simplified)
          (regular_of_simplify_eq_ok simplified)
        refine ⟨⟨fun _ => ⟨_, rfl⟩, fun _ => ⟨_, rfl⟩⟩, fun same other found => ?_, fun keeps => ?_⟩
        · cases found
          exact kept.mp (Except.ok.inj same).symm
        · exact congrArg Except.ok (kept.mpr (keeps result rfl)).symm

/-- The derivative of `x ^ 3 + y` keeps its only term. -/
theorem simplify_derivative_sumOf_cubePlusSymbol :
    WellFormed (power (symbol .x) (.ofInt 3)) ∧
      WellFormed (symbol .y) ∧
      KeepsTerms (product [number (.ofInt 3), power (symbol .x) (.ofInt 2)]) ∧
      ((sumOf [power (symbol .x) (.ofInt 3), symbol .y]).derivative .x).simplify =
        (sumOf [(power (symbol .x) (.ofInt 3)).derivative .x,
          (symbol .y).derivative .x]).simplify := by
  have cubeWellFormed : WellFormed (power (symbol .x) (.ofInt 3)) := by decide +kernel
  have symbolWellFormed : WellFormed (symbol .y) := .symbol .y
  have simplified : ((sumOf [power (symbol .x) (.ofInt 3), symbol .y]).derivative .x).simplify =
      .ok (product [number (.ofInt 3), power (symbol .x) (.ofInt 2)]) := by decide +kernel
  have keeps : KeepsTerms (product [number (.ofInt 3), power (symbol .x) (.ofInt 2)]) :=
    (simplify_eq_self_iff.mp (by decide +kernel)).keepsTerms
  refine ⟨cubeWellFormed, symbolWellFormed, keeps, ?_⟩
  refine (simplify_derivative_sumOf_iff cubeWellFormed symbolWellFormed .x).2.mpr (.inr ?_)
  intro result success
  rw [simplified] at success
  cases success
  exact keeps

/-- Twice `x`, times the square and the inverse of the product `y * z`. -/
def powersBesideSymbol : Expr :=
  productOf [number (.ofInt 2), symbol .x, power (productOf [symbol .y, symbol .z]) (.ofInt 2),
    power (productOf [symbol .y, symbol .z]) (.ofInt (-1))]

/-- The exponents of `y * z` add up to one, which leaves a product beside the coefficient.
Only adding the derivative of the constant multiplies the coefficient into it. -/
theorem simplify_derivative_sumOf_powersBesideSymbol_ne :
    WellFormed (number 1) ∧
      WellFormed powersBesideSymbol ∧
        ∃ together apart,
          ((sumOf [number 1, powersBesideSymbol]).derivative .x).simplify = .ok together ∧
            (sumOf [(number 1).derivative .x, powersBesideSymbol.derivative .x]).simplify =
              .ok apart ∧
            together ≠ apart := by
  refine ⟨.number 1, by decide +kernel,
    product [number (.ofInt 2), product [symbol .y, symbol .z]],
    product [number (.ofInt 2), symbol .y, symbol .z],
    by decide +kernel, by decide +kernel, by decide⟩

end Expr
end ExactAlgebra
