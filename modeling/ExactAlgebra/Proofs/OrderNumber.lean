import ExactAlgebra.Proofs.CanonicalOrder
import ExactAlgebra.Proofs.Evaluation.Basic
import ExactAlgebra.Workbench.Operation.General

/-!
# The canonical order as a number

A three-way comparison is told as minus one, zero or one. In this form the canonical
order changes its sign with its arguments, is zero for equal expressions only, and
is transitive where it is not positive.
-/

namespace ExactAlgebra
namespace Workbench
namespace GeneralOperation

theorem orderNumber_swap (order : Ordering) : orderNumber order.swap = -orderNumber order := by
  cases order <;> rfl

theorem orderNumber_eq_zero_iff {order : Ordering} : orderNumber order = 0 ↔ order = .eq := by
  cases order <;> decide

theorem orderNumber_nonpos_iff {order : Ordering} :
    orderNumber order ≤ 0 ↔ order.isLE = true := by
  cases order <;> decide

theorem orderNumber_cases (order : Ordering) :
    orderNumber order = -1 ∨ orderNumber order = 0 ∨ orderNumber order = 1 := by
  cases order <;> decide

end GeneralOperation
end Workbench

namespace Expr

open Workbench.GeneralOperation (orderNumber orderNumber_cases orderNumber_swap
  orderNumber_eq_zero_iff orderNumber_nonpos_iff)

/-- The canonical order is total, transitive and consistent with equality. -/
theorem orderNumber_compare_isTotalOrder (first second third : Expr) :
    (orderNumber (compare first second) = -1 ∨ orderNumber (compare first second) = 0 ∨
        orderNumber (compare first second) = 1) ∧
      orderNumber (compare first second) = -orderNumber (compare second first) ∧
        (orderNumber (compare first second) = 0 ↔ same first second = true) ∧
          (orderNumber (compare first second) ≤ 0 → orderNumber (compare second third) ≤ 0 →
            orderNumber (compare first third) ≤ 0) := by
  refine ⟨orderNumber_cases _, ?_, ?_, ?_⟩
  · rw [compare_swap first second, orderNumber_swap]
  · rw [orderNumber_eq_zero_iff, compare_eq_eq_iff, same_eq_true_iff]
  · rw [orderNumber_nonpos_iff, orderNumber_nonpos_iff, orderNumber_nonpos_iff]
    exact le_trans first second third

/-- A product comes before one that continues it, and every product before every sum. -/
theorem orderNumber_compare_continuedProduct :
    orderNumber (compare (product [symbol .x, symbol .y])
        (product [symbol .x, symbol .y, symbol .z])) ≤ 0 ∧
      orderNumber (compare (product [symbol .x, symbol .y, symbol .z])
          (sum [number 1, symbol .x])) ≤ 0 ∧
        orderNumber (compare (product [symbol .x, symbol .y]) (sum [number 1, symbol .x])) ≤ 0 := by
  have continued : orderNumber (compare (product [symbol .x, symbol .y])
      (product [symbol .x, symbol .y, symbol .z])) ≤ 0 := by
    decide +kernel
  have higherKind : orderNumber (compare (product [symbol .x, symbol .y, symbol .z])
      (sum [number 1, symbol .x])) ≤ 0 := by
    decide +kernel
  obtain ⟨_, _, _, transitive⟩ := orderNumber_compare_isTotalOrder
    (product [symbol .x, symbol .y]) (product [symbol .x, symbol .y, symbol .z])
    (sum [number 1, symbol .x])
  exact ⟨continued, higherKind, transitive continued higherKind⟩

end Expr
end ExactAlgebra
