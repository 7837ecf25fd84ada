import ExactAlgebra.Proofs.Evaluation.IntegerPower
import Mathlib.Algebra.BigOperators.Group.List.Basic
import Mathlib.Algebra.DualNumber
import Mathlib.Tactic.FieldSimp
import Mathlib.Tactic.Ring

/-!
# Powers, sums and products of dual numbers

A dual number carries a rational value and the slope of that value. Its powers
exist where those of the value do, and multiply the slope by the exponent and the
next lower power. Values and slopes add up in sums, and values multiply in
products.
-/

namespace ExactAlgebra
namespace Derivative

open TrivSqZeroExt

/-! ## Powers -/

/-- What the power rule makes of a dual number. -/
def dualPower (dual : DualNumber ℚ) (exponent : ℤ) : DualNumber ℚ :=
  (dual.fst ^ exponent, exponent * dual.fst ^ (exponent - 1) * dual.snd)

@[simp] theorem fst_dualPower (dual : DualNumber ℚ) (exponent : ℤ) :
    (dualPower dual exponent).fst = dual.fst ^ exponent := rfl

@[simp] theorem snd_dualPower (dual : DualNumber ℚ) (exponent : ℤ) :
    (dualPower dual exponent).snd = exponent * dual.fst ^ (exponent - 1) * dual.snd := rfl

/-- The power rule follows multiplication by a dual number that can be inverted. -/
theorem dualPower_mul_self
    {dual : DualNumber ℚ}
    (nonzero : dual.fst ≠ 0)
    (exponent : ℤ) :
    dualPower dual exponent * dual = dualPower dual (exponent + 1) := by
  ext
  · rw [fst_mul, fst_dualPower, fst_dualPower, zpow_add_one₀ nonzero]
  · rw [DualNumber.snd_mul, snd_dualPower, snd_dualPower, fst_dualPower, add_sub_cancel_right,
      zpow_sub_one₀ nonzero]
    push_cast
    field_simp
    ring

/-- The power rule gives all powers of a dual number that can be inverted. -/
theorem val_zpow_eq_dualPower
    {dual : (DualNumber ℚ)ˣ}
    (nonzero : (dual : DualNumber ℚ).fst ≠ 0)
    (exponent : ℤ) :
    ((dual ^ exponent : (DualNumber ℚ)ˣ) : DualNumber ℚ) = dualPower dual exponent := by
  induction exponent using Int.induction_on with
  | zero =>
      rw [zpow_zero, Units.val_one]
      ext <;> simp
  | succ exponent hypothesis =>
      rw [zpow_add_one, Units.val_mul, hypothesis, dualPower_mul_self nonzero]
  | pred exponent hypothesis =>
      apply dual.isUnit.mul_right_cancel
      rw [← Units.val_mul, ← zpow_add_one, dualPower_mul_self nonzero, sub_add_cancel, hypothesis]

/-- The powers of a dual number exist where those of its value do, and follow the
power rule. -/
theorem integerPower_dual
    {dual : DualNumber ℚ}
    {exponent : ℤ}
    (defined : dual.fst ≠ 0 ∨ 0 < exponent) :
    integerPower dual exponent = some (dualPower dual exponent) := by
  by_cases positive : 0 < exponent
  · have natural : exponent = exponent.toNat := (Int.toNat_of_nonneg positive.le).symm
    have previous : exponent - 1 = (exponent.toNat - 1 : ℕ) := by omega
    rw [integerPower_of_pos dual positive]
    congr 1
    ext
    · rw [fst_pow, fst_dualPower, natural, zpow_natCast, ← natural]
    · rw [snd_pow, snd_dualPower, previous, zpow_natCast, smul_eq_mul, nsmul_eq_mul, mul_assoc,
        Nat.pred_eq_sub_one, ← Int.cast_natCast, ← natural]
  · have nonzero := defined.resolve_right positive
    obtain ⟨unit, rfl⟩ := isUnit_iff_isUnit_fst.mpr (isUnit_iff_ne_zero.mpr nonzero)
    rw [integerPower_unit, val_zpow_eq_dualPower nonzero]

/-! ## Sums and products -/

/-- The value of a sum is the sum of the values. -/
theorem fst_sum (duals : List (DualNumber ℚ)) : duals.sum.fst = (duals.map fst).sum := by
  induction duals with
  | nil => rfl
  | cons dual duals hypothesis =>
      rw [List.sum_cons, fst_add, hypothesis, List.map_cons, List.sum_cons]

/-- The slope of a sum is the sum of the slopes. -/
theorem snd_sum (duals : List (DualNumber ℚ)) : duals.sum.snd = (duals.map snd).sum := by
  induction duals with
  | nil => rfl
  | cons dual duals hypothesis =>
      rw [List.sum_cons, snd_add, hypothesis, List.map_cons, List.sum_cons]

/-- The value of a product is the product of the values. -/
theorem fst_prod (duals : List (DualNumber ℚ)) : duals.prod.fst = (duals.map fst).prod := by
  induction duals with
  | nil => rfl
  | cons dual duals hypothesis =>
      rw [List.prod_cons, fst_mul, hypothesis, List.map_cons, List.prod_cons]

/-- A product of dual numbers without slope has none. -/
theorem snd_prod_eq_zero
    {duals : List (DualNumber ℚ)}
    (constant : ∀ dual ∈ duals, dual.snd = 0) :
    duals.prod.snd = 0 := by
  induction duals with
  | nil => rfl
  | cons dual duals hypothesis =>
      rw [List.prod_cons, DualNumber.snd_mul, constant dual List.mem_cons_self,
        hypothesis fun other member => constant other (List.mem_cons_of_mem _ member),
        mul_zero, zero_mul, add_zero]

end Derivative
end ExactAlgebra
