import ExactAlgebra.Proofs.Fraction.RationalPower
import Mathlib.Analysis.SpecialFunctions.Pow.Real

/-!
# Powers of positive fractions as real numbers

The power of a positive fraction is a real number, whatever the exponent. Where an
exact power is found, it is this number: it is the root that the exponent's denominator
asks for, and a positive number has only one that is not negative.
-/

namespace ExactAlgebra
namespace Fraction

/-- The real number that an exponent stands for. -/
theorem cast_toRat (fraction : Fraction) :
    (fraction.toRat : ℝ) = (fraction.num : ℝ) / (fraction.den : ℝ) := by
  rw [toRat_eq_div]
  push_cast
  rfl

theorem toRat_inverse_of_reciprocal_eq_ok
    {fraction inverse : Fraction}
    (positive : 0 < fraction.toRat)
    (inverted : fraction.reciprocal = .ok inverse) :
    inverse.toRat = fraction.toRat⁻¹ := by
  have nonzero : fraction ≠ 0 := mt toRat_eq_zero_iff.mpr positive.ne'
  obtain ⟨found, success, value⟩ := exists_reciprocal_eq_ok nonzero
  cases inverted.symm.trans success
  exact value

/-- An exact power of a positive fraction is the real power. -/
theorem toRat_of_pow_eq_some
    {base exponent result : Fraction}
    (positive : 0 < base.toRat)
    (success : base.pow exponent = .ok (some result)) :
    (result.toRat : ℝ) = (base.toRat : ℝ) ^ (exponent.toRat : ℝ) := by
  have isRoot : IsRealRoot (base.toRat ^ exponent.num) exponent.den result.toRat :=
    answersRoot_some_iff.mp (pow_eq_ok_iff.mp success).2
  have resultNonneg : (0 : ℝ) ≤ result.toRat :=
    Rat.cast_nonneg.mpr (isRoot.nonneg_of_nonneg (zpow_pos positive _).le)
  have baseNonneg : (0 : ℝ) ≤ base.toRat := Rat.cast_nonneg.mpr positive.le
  have power : (result.toRat : ℝ) ^ exponent.den = (base.toRat : ℝ) ^ exponent.num := by
    exact_mod_cast isRoot.pow_eq
  calc (result.toRat : ℝ)
      = ((result.toRat : ℝ) ^ exponent.den) ^ (exponent.den : ℝ)⁻¹ :=
        (Real.pow_rpow_inv_natCast resultNonneg exponent.den_pos.ne').symm
    _ = (base.toRat : ℝ) ^ ((exponent.num : ℝ) * (exponent.den : ℝ)⁻¹) := by
        rw [power, ← Real.rpow_intCast, ← Real.rpow_mul baseNonneg]
    _ = (base.toRat : ℝ) ^ (exponent.toRat : ℝ) := by
        rw [cast_toRat exponent, div_eq_mul_inv]

end Fraction
end ExactAlgebra
