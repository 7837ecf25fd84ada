import Mathlib.Algebra.Algebra.Rat
import Mathlib.Algebra.Field.Rat
import Mathlib.Algebra.GroupWithZero.Units.Basic
import Mathlib.Algebra.Order.Ring.Int

/-!
# Integer powers in commutative rings

A positive power multiplies the base with itself and always exists. Any other
power needs a base that can be inverted. In a field this leaves out exactly the
powers of zero whose exponent is zero or negative.
-/

namespace ExactAlgebra

variable {K : Type*} [CommRing K]

open Classical in
/-- The power with an integer exponent, if it exists. -/
noncomputable def integerPower (base : K) (exponent : ℤ) : Option K :=
  if 0 < exponent then some (base ^ exponent.toNat)
  else if invertible : IsUnit base then some ((invertible.unit ^ exponent : Kˣ) : K)
  else none

theorem integerPower_of_pos (base : K) {exponent : ℤ} (positive : 0 < exponent) :
    integerPower base exponent = some (base ^ exponent.toNat) :=
  if_pos positive

@[simp] theorem integerPower_one (base : K) : integerPower base 1 = some base := by
  rw [integerPower_of_pos base one_pos, Int.toNat_one, pow_one]

/-- An invertible base has all integer powers. -/
@[simp] theorem integerPower_unit (base : Kˣ) (exponent : ℤ) :
    integerPower (base : K) exponent = some ((base ^ exponent : Kˣ) : K) := by
  unfold integerPower
  split
  · rename_i positive
    rw [← Units.val_pow_eq_pow_val, ← zpow_natCast, Int.toNat_of_nonneg positive.le]
  · rw [dif_pos base.isUnit, IsUnit.unit_of_val_units]

/-- A base that cannot be inverted has positive powers only. -/
theorem pos_of_integerPower_eq_some
    {base result : K}
    {exponent : ℤ}
    (singular : ¬IsUnit base)
    (defined : integerPower base exponent = some result) :
    0 < exponent ∧ result = base ^ exponent.toNat := by
  unfold integerPower at defined
  split at defined
  · rename_i positive
    exact ⟨positive, (Option.some.inj defined).symm⟩
  · cases defined

theorem eq_one_of_integerPower_zero
    {base result : K}
    (defined : integerPower base 0 = some result) :
    result = 1 := by
  by_cases invertible : IsUnit base
  · obtain ⟨base, rfl⟩ := invertible
    rw [integerPower_unit] at defined
    simpa using (Option.some.inj defined).symm
  · exact absurd (pos_of_integerPower_eq_some invertible defined).1 (lt_irrefl 0)

/-- Powers of the same base multiply by adding their exponents. -/
theorem integerPower_add
    {base left right : K}
    {first second : ℤ}
    (leftPower : integerPower base first = some left)
    (rightPower : integerPower base second = some right) :
    integerPower base (first + second) = some (left * right) := by
  by_cases invertible : IsUnit base
  · obtain ⟨base, rfl⟩ := invertible
    rw [integerPower_unit] at leftPower rightPower ⊢
    cases leftPower
    cases rightPower
    rw [zpow_add, Units.val_mul]
  · obtain ⟨firstPos, rfl⟩ := pos_of_integerPower_eq_some invertible leftPower
    obtain ⟨secondPos, rfl⟩ := pos_of_integerPower_eq_some invertible rightPower
    rw [integerPower_of_pos base (add_pos firstPos secondPos),
      Int.toNat_add firstPos.le secondPos.le, pow_add]

/-- A power of a power multiplies the exponents. -/
theorem integerPower_mul
    {base inner result : K}
    {first second : ℤ}
    (innerPower : integerPower base first = some inner)
    (outerPower : integerPower inner second = some result) :
    integerPower base (first * second) = some result := by
  by_cases invertible : IsUnit base
  · obtain ⟨base, rfl⟩ := invertible
    rw [integerPower_unit] at innerPower
    cases innerPower
    rw [integerPower_unit] at outerPower ⊢
    rw [zpow_mul]
    exact outerPower
  · obtain ⟨firstPos, rfl⟩ := pos_of_integerPower_eq_some invertible innerPower
    have innerSingular : ¬IsUnit (base ^ first.toNat) := by
      rw [isUnit_pow_iff (by omega)]
      exact invertible
    obtain ⟨secondPos, rfl⟩ := pos_of_integerPower_eq_some innerSingular outerPower
    rw [integerPower_of_pos base (mul_pos firstPos secondPos),
      Int.toNat_mul firstPos.le secondPos.le, pow_mul]

/-- In the rational numbers only zero lacks powers, namely those whose exponent is
zero or negative. -/
theorem integerPower_rat (base : ℚ) (exponent : ℤ) :
    integerPower base exponent =
      if base = 0 ∧ exponent ≤ 0 then none else some (base ^ exponent) := by
  by_cases isZero : base = 0
  · subst isZero
    by_cases positive : 0 < exponent
    · rw [integerPower_of_pos 0 positive, if_neg (by omega), zero_pow (by omega),
        zero_zpow exponent positive.ne']
    · rw [if_pos ⟨rfl, not_lt.mp positive⟩, integerPower, if_neg positive,
        dif_neg not_isUnit_zero]
  · have unit := integerPower_unit (Units.mk0 base isZero) exponent
    rw [Units.val_zpow_eq_zpow_val, Units.val_mk0] at unit
    rw [unit, if_neg fun both => isZero both.1]

theorem integerPower_eq_zpow
    {base : ℚ}
    {exponent : ℤ}
    (defined : base ≠ 0 ∨ 0 < exponent) :
    integerPower base exponent = some (base ^ exponent) := by
  have notExcluded : ¬(base = 0 ∧ exponent ≤ 0) := by
    rintro ⟨isZero, notPositive⟩
    exact defined.elim (fun nonzero => nonzero isZero) (fun positive => by omega)
  rw [integerPower_rat, if_neg notExcluded]

theorem ne_zero_or_pos_of_integerPower_eq_some
    {base result : ℚ}
    {exponent : ℤ}
    (defined : integerPower base exponent = some result) :
    base ≠ 0 ∨ 0 < exponent := by
  by_contra excluded
  rw [not_or, not_not, not_lt] at excluded
  rw [integerPower_rat, if_pos excluded] at defined
  cases defined

/-- The power of a rational number stays its power in every algebra over the
rational numbers. -/
theorem integerPower_algebraMap
    [Algebra ℚ K]
    {base : ℚ}
    {exponent : ℤ}
    (defined : base ≠ 0 ∨ 0 < exponent) :
    integerPower (algebraMap ℚ K base) exponent = some (algebraMap ℚ K (base ^ exponent)) := by
  by_cases isZero : base = 0
  · have positive : 0 < exponent := defined.resolve_left (not_not.mpr isZero)
    have natural : base ^ exponent = base ^ exponent.toNat := by
      rw [← zpow_natCast, Int.toNat_of_nonneg positive.le]
    rw [integerPower_of_pos _ positive, natural, map_pow]
  · have unit :=
      integerPower_unit (Units.map (algebraMap ℚ K).toMonoidHom (Units.mk0 base isZero)) exponent
    rw [← map_zpow, Units.coe_map, Units.coe_map, Units.val_zpow_eq_zpow_val,
      Units.val_mk0] at unit
    exact unit

end ExactAlgebra
