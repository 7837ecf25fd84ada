import ExactAlgebra.Proofs.CanonicalOrder
import ExactAlgebra.Proofs.Fraction.IntegerPower

/-!
# Fractions refine the field of rational numbers

The operations on fractions give the exact results of the field operations, each in
lowest terms with a positive denominator. They refuse nothing but a denominator zero
and the reciprocal of zero. Since a rational number has only one such form, fractions
are equal field by field exactly when their values are.
-/

namespace ExactAlgebra
namespace Fraction

/-- Numerator and denominator of the fraction give the value in lowest terms, and the
denominator is positive. -/
structure IsReducedForm (fraction : Fraction) (value : ℚ) : Prop where
  den_pos : 0 < fraction.den
  coprime : Nat.Coprime fraction.num.natAbs fraction.den
  quotient_eq : (fraction.num : ℚ) / (fraction.den : ℚ) = value

theorem isReducedForm_iff {fraction : Fraction} {value : ℚ} :
    fraction.IsReducedForm value ↔ fraction.toRat = value := by
  constructor
  · intro form
    rw [toRat_eq_div, form.quotient_eq]
  · intro equal
    refine ⟨fraction.den_pos, fraction.reduced, ?_⟩
    rw [← toRat_eq_div, equal]

/-! ## The operations one by one -/

variable (left right : Fraction)

theorem isReducedForm_add : (left + right).IsReducedForm (left.toRat + right.toRat) :=
  isReducedForm_iff.mpr (toRat_add left right)

theorem isReducedForm_sub : (left - right).IsReducedForm (left.toRat - right.toRat) :=
  isReducedForm_iff.mpr (toRat_sub left right)

theorem isReducedForm_mul : (left * right).IsReducedForm (left.toRat * right.toRat) :=
  isReducedForm_iff.mpr (toRat_mul left right)

theorem isReducedForm_neg : (-left).IsReducedForm (-left.toRat) :=
  isReducedForm_iff.mpr (toRat_neg left)

/-- Only a denominator zero is refused. -/
theorem ofQuotient_cases (num den : Int) :
    den = 0 ∧ ofQuotient num den = .error .zeroDenominator ∨
      den ≠ 0 ∧ ∃ quotient,
        ofQuotient num den = .ok quotient ∧ quotient.IsReducedForm ((num : ℚ) / (den : ℚ)) := by
  by_cases zero : den = 0
  · subst zero
    exact .inl ⟨rfl, rfl⟩
  · obtain ⟨quotient, success, value⟩ := @exists_ofQuotient_eq_ok num den zero
    exact .inr ⟨zero, quotient, success, isReducedForm_iff.mpr value⟩

/-- Only zero has no reciprocal. -/
theorem reciprocal_cases :
    right.toRat = 0 ∧ right.reciprocal = .error .zeroReciprocal ∨
      right.toRat ≠ 0 ∧ ∃ inverse,
        right.reciprocal = .ok inverse ∧ inverse.IsReducedForm right.toRat⁻¹ := by
  by_cases zero : right = 0
  · subst zero
    exact .inl ⟨toRat_zero, reciprocal_zero⟩
  · obtain ⟨inverse, success, value⟩ := exists_reciprocal_eq_ok zero
    exact .inr ⟨mt toRat_eq_zero_iff.mp zero, inverse, success, isReducedForm_iff.mpr value⟩

/-- Only the division by zero is refused. -/
theorem div_cases :
    right.toRat = 0 ∧ left.div right = .error .zeroReciprocal ∨
      right.toRat ≠ 0 ∧ ∃ quotient,
        left.div right = .ok quotient ∧ quotient.IsReducedForm (left.toRat / right.toRat) := by
  rcases right.reciprocal_cases with ⟨zero, refused⟩ | ⟨nonzero, inverse, success, form⟩
  · refine .inl ⟨zero, ?_⟩
    rw [div, refused]
    rfl
  · refine .inr ⟨nonzero, left * inverse, ?_, isReducedForm_iff.mpr ?_⟩
    · rw [div, success]
      rfl
    · rw [toRat_mul, isReducedForm_iff.mp form, div_eq_mul_inv]

/-- Fractions are compared by value. -/
theorem compare_eq_cmp : left.compare right = cmp left.toRat right.toRat := by
  cases order : left.compare right with
  | lt => exact ((cmp_eq_lt_iff _ _).mpr ((compare_eq_lt_iff left right).mp order)).symm
  | eq =>
      have same := (compare_eq_eq_iff left right).mp order
      exact ((cmp_eq_eq_iff _ _).mpr (toRat_inj.mpr same)).symm
  | gt =>
      rw [compare_swap, Ordering.swap_eq_gt, compare_eq_lt_iff] at order
      exact ((cmp_eq_gt_iff _ _).mpr order).symm

/-- Fractions refine the field of rational numbers. Making a fraction from two integers,
addition, subtraction, multiplication, division, opposites and reciprocals give the exact
values in lowest terms with positive denominators. A denominator zero, the division by
zero and the reciprocal of zero are all that is refused. The comparison is that of the
values, and fractions are the same field by field exactly when their values are. -/
theorem field_operations_exact (left right : Fraction) (num den : Int) :
    (den = 0 ∧ ofQuotient num den = .error .zeroDenominator ∨
        den ≠ 0 ∧ ∃ quotient,
          ofQuotient num den = .ok quotient ∧ quotient.IsReducedForm ((num : ℚ) / (den : ℚ))) ∧
      (left + right).IsReducedForm (left.toRat + right.toRat) ∧
      (left - right).IsReducedForm (left.toRat - right.toRat) ∧
      (left * right).IsReducedForm (left.toRat * right.toRat) ∧
      (-left).IsReducedForm (-left.toRat) ∧
      (right.toRat = 0 ∧ right.reciprocal = .error .zeroReciprocal ∨
        right.toRat ≠ 0 ∧ ∃ inverse,
          right.reciprocal = .ok inverse ∧ inverse.IsReducedForm right.toRat⁻¹) ∧
      (right.toRat = 0 ∧ left.div right = .error .zeroReciprocal ∨
        right.toRat ≠ 0 ∧ ∃ quotient,
          left.div right = .ok quotient ∧
            quotient.IsReducedForm (left.toRat / right.toRat)) ∧
      left.compare right = cmp left.toRat right.toRat ∧
      (left.num = right.num ∧ left.den = right.den ↔ left.toRat = right.toRat) := by
  refine ⟨ofQuotient_cases num den, isReducedForm_add left right, isReducedForm_sub left right,
    isReducedForm_mul left right, isReducedForm_neg left, reciprocal_cases right,
    div_cases left right, compare_eq_cmp left right, ?_⟩
  rw [toRat_inj]
  exact ⟨fun ⟨sameNum, sameDen⟩ => ext sameNum sameDen, fun same => same ▸ ⟨rfl, rfl⟩⟩

/-- The quotient of three quarters by minus nine halves is reduced crosswise and keeps its
sign in the numerator. -/
example : (div ⟨3, 4, by decide, by decide⟩ ⟨-9, 2, by decide, by decide⟩) =
    .ok ⟨-1, 6, by decide, by decide⟩ := by
  decide +kernel

end Fraction
end ExactAlgebra
