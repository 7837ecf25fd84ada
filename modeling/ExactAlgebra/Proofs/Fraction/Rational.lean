import ExactAlgebra.Fraction.Power
import Mathlib.Algebra.Field.Rat
import Mathlib.Data.Int.Cast.Field
import Mathlib.Data.Nat.Cast.Field
import Mathlib.Data.Rat.Lemmas
import Mathlib.Tactic.FieldSimp
import Mathlib.Tactic.Ring

/-!
# Fractions as rational numbers

Every fraction has a rational value, and different fractions have different
values. The field operations on fractions compute those on their values, and a
power with an integer exponent, where it is defined, is the power of the value.
-/

namespace ExactAlgebra
namespace Fraction

/-- The rational number that a fraction stands for. -/
def toRat (fraction : Fraction) : ℚ where
  num := fraction.num
  den := fraction.den
  den_nz := Nat.pos_iff_ne_zero.mp fraction.den_pos
  reduced := fraction.reduced

@[simp] theorem num_toRat (fraction : Fraction) : fraction.toRat.num = fraction.num := rfl

@[simp] theorem den_toRat (fraction : Fraction) : fraction.toRat.den = fraction.den := rfl

/-- The value is the quotient of numerator and denominator. -/
theorem toRat_eq_div (fraction : Fraction) :
    fraction.toRat = (fraction.num : ℚ) / (fraction.den : ℚ) :=
  (Rat.num_div_den fraction.toRat).symm

/-- Fractions with the same value are the same. -/
theorem toRat_injective : Function.Injective toRat := by
  intro left right equal
  exact ext (congrArg Rat.num equal) (congrArg Rat.den equal)

theorem toRat_inj {left right : Fraction} : left.toRat = right.toRat ↔ left = right :=
  toRat_injective.eq_iff

/-- The fraction with the given value. -/
def ofRat (value : ℚ) : Fraction where
  num := value.num
  den := value.den
  den_pos := value.den_pos
  reduced := value.reduced

@[simp] theorem toRat_ofRat (value : ℚ) : (ofRat value).toRat = value := rfl

@[simp] theorem ofRat_toRat (fraction : Fraction) : ofRat fraction.toRat = fraction := rfl

@[simp] theorem toRat_zero : (0 : Fraction).toRat = 0 := rfl

@[simp] theorem toRat_one : (1 : Fraction).toRat = 1 := rfl

@[simp] theorem toRat_eq_zero_iff {fraction : Fraction} : fraction.toRat = 0 ↔ fraction = 0 := by
  rw [← toRat_zero, toRat_inj]

@[simp] theorem ofRat_zero : ofRat 0 = 0 := rfl

@[simp] theorem ofRat_one : ofRat 1 = 1 := rfl

@[simp] theorem ofRat_eq_zero_iff {value : ℚ} : ofRat value = 0 ↔ value = 0 := by
  rw [← toRat_inj, toRat_ofRat, toRat_zero]

@[simp] theorem ofRat_eq_one_iff {value : ℚ} : ofRat value = 1 ↔ value = 1 := by
  rw [← toRat_inj, toRat_ofRat, toRat_one]

theorem den_ne_zero (fraction : Fraction) : (fraction.den : ℚ) ≠ 0 :=
  Nat.cast_ne_zero.mpr (Nat.pos_iff_ne_zero.mp fraction.den_pos)

/-- Reducing a quotient keeps its value. -/
theorem toRat_reduce
    (num : Int)
    (den : Nat)
    (pos : 0 < den) :
    (reduce num den pos).toRat = (num : ℚ) / (den : ℚ) := by
  have shared : Integer.gcd num den = Nat.gcd num.natAbs den :=
    Integer.gcd_eq_natAbs_gcd num den
  have sharedPos : 0 < Nat.gcd num.natAbs den := Nat.gcd_pos_of_pos_right _ pos
  have sharedNonzero : ((Nat.gcd num.natAbs den : Nat) : ℚ) ≠ 0 :=
    Nat.cast_ne_zero.mpr sharedPos.ne'
  have dividesNum : ((Nat.gcd num.natAbs den : Nat) : Int) ∣ num :=
    Int.natCast_dvd.mpr (Nat.gcd_dvd_left _ _)
  rw [toRat_eq_div]
  change ((num / (Integer.gcd num den : Int) : Int) : ℚ) /
    ((den / Integer.gcd num den : Nat) : ℚ) = _
  rw [shared, Int.cast_div dividesNum (by exact_mod_cast sharedNonzero),
    Nat.cast_div (Nat.gcd_dvd_right _ _) sharedNonzero, Int.cast_natCast,
    div_div_div_cancel_right₀ sharedNonzero]

@[simp] theorem toRat_add (left right : Fraction) :
    (left + right).toRat = left.toRat + right.toRat := by
  have common : Integer.lcm left.den right.den = Nat.lcm left.den right.den :=
    Integer.lcm_eq_natAbs_lcm _ _
  have leftNonzero := left.den_ne_zero
  have rightNonzero := right.den_ne_zero
  have commonNonzero : ((Nat.lcm left.den right.den : Nat) : ℚ) ≠ 0 :=
    Nat.cast_ne_zero.mpr (Nat.lcm_pos left.den_pos right.den_pos).ne'
  change (add left right).toRat = _
  rw [add, toRat_reduce, common, toRat_eq_div left, toRat_eq_div right, Int.cast_add,
    Int.cast_mul, Int.cast_mul, Int.cast_natCast, Int.cast_natCast,
    Nat.cast_div (Nat.dvd_lcm_left left.den right.den) leftNonzero,
    Nat.cast_div (Nat.dvd_lcm_right left.den right.den) rightNonzero]
  field_simp

@[simp] theorem toRat_mul (left right : Fraction) :
    (left * right).toRat = left.toRat * right.toRat := by
  have leftShared : Integer.gcd left.num right.den = Nat.gcd left.num.natAbs right.den :=
    Integer.gcd_eq_natAbs_gcd _ _
  have rightShared : Integer.gcd right.num left.den = Nat.gcd right.num.natAbs left.den :=
    Integer.gcd_eq_natAbs_gcd _ _
  have leftNonzero : ((Nat.gcd left.num.natAbs right.den : Nat) : ℚ) ≠ 0 :=
    Nat.cast_ne_zero.mpr (Nat.gcd_pos_of_pos_right _ right.den_pos).ne'
  have rightNonzero : ((Nat.gcd right.num.natAbs left.den : Nat) : ℚ) ≠ 0 :=
    Nat.cast_ne_zero.mpr (Nat.gcd_pos_of_pos_right _ left.den_pos).ne'
  have leftDen := left.den_ne_zero
  have rightDen := right.den_ne_zero
  rw [toRat_eq_div (left * right), toRat_eq_div left, toRat_eq_div right]
  change ((left.num / (Integer.gcd left.num right.den : Int) *
      (right.num / (Integer.gcd right.num left.den : Int)) : Int) : ℚ) /
    ((left.den / Integer.gcd right.num left.den *
      (right.den / Integer.gcd left.num right.den) : Nat) : ℚ) = _
  rw [leftShared, rightShared, Int.cast_mul, Nat.cast_mul,
    Int.cast_div (Int.natCast_dvd.mpr (Nat.gcd_dvd_left _ _)) (by exact_mod_cast leftNonzero),
    Int.cast_div (Int.natCast_dvd.mpr (Nat.gcd_dvd_left _ _)) (by exact_mod_cast rightNonzero),
    Nat.cast_div (Nat.gcd_dvd_right _ _) rightNonzero,
    Nat.cast_div (Nat.gcd_dvd_right _ _) leftNonzero, Int.cast_natCast, Int.cast_natCast]
  field_simp

@[simp] theorem toRat_neg (fraction : Fraction) : (-fraction).toRat = -fraction.toRat := rfl

@[simp] theorem toRat_sub (left right : Fraction) :
    (left - right).toRat = left.toRat - right.toRat := by
  change (left + -right).toRat = _
  rw [toRat_add, toRat_neg, sub_eq_add_neg]

@[simp] theorem toRat_ofInt (number : Int) : (ofInt number).toRat = (number : ℚ) := by
  rw [toRat_eq_div]
  simp

@[simp] theorem ofInt_eq_zero_iff {number : Int} : ofInt number = 0 ↔ number = 0 :=
  (num_eq_zero_iff (ofInt number)).symm

@[simp] theorem ofInt_eq_one_iff {number : Int} : ofInt number = 1 ↔ number = 1 := by
  rw [← toRat_inj, toRat_ofInt, toRat_one, Int.cast_eq_one]

/-- The sum of positive fractions is positive. -/
theorem num_add_pos
    {left right : Fraction}
    (leftPositive : 0 < left.num)
    (rightPositive : 0 < right.num) :
    0 < (left + right).num := by
  rw [← num_toRat, Rat.num_pos, toRat_add]
  exact add_pos (Rat.num_pos.mp leftPositive) (Rat.num_pos.mp rightPositive)

end Fraction
end ExactAlgebra
