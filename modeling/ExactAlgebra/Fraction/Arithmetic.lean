import ExactAlgebra.Fraction.Basic

/-!
# Field operations on fractions

Addition goes through the least common denominator. Multiplication first
divides each numerator by what it shares with the other denominator, so its
result is already in lowest terms. Division and the reciprocal refuse zero.
-/

namespace ExactAlgebra
namespace Fraction

/-- The sum over the least common denominator, in lowest terms. -/
def add (left right : Fraction) : Fraction :=
  let den := Integer.lcm left.den right.den
  reduce (left.num * (den / left.den : Nat) + right.num * (den / right.den : Nat)) den (by
    have common : den = Nat.lcm left.den right.den := Integer.lcm_eq_natAbs_lcm _ _
    rw [common]
    exact Nat.lcm_pos left.den_pos right.den_pos)

instance : Add Fraction := ⟨add⟩

/-- Dividing two numbers by what they share with each other's partners leaves
the first coprime to the product of the second factors. -/
theorem coprime_crosswise
    {leftNum leftDen rightNum rightDen : Nat}
    (leftPos : 0 < leftDen)
    (rightPos : 0 < rightDen)
    (leftReduced : Nat.Coprime leftNum leftDen)
    (rightReduced : Nat.Coprime rightNum rightDen) :
    Nat.Coprime
      (leftNum / Nat.gcd leftNum rightDen * (rightNum / Nat.gcd rightNum leftDen))
      (leftDen / Nat.gcd rightNum leftDen * (rightDen / Nat.gcd leftNum rightDen)) := by
  have leftDvd := Nat.div_dvd_of_dvd (Nat.gcd_dvd_left leftNum rightDen)
  have leftDenDvd := Nat.div_dvd_of_dvd (Nat.gcd_dvd_right rightNum leftDen)
  have rightDvd := Nat.div_dvd_of_dvd (Nat.gcd_dvd_left rightNum leftDen)
  have rightDenDvd := Nat.div_dvd_of_dvd (Nat.gcd_dvd_right leftNum rightDen)
  apply Nat.Coprime.mul_left
  · apply Nat.Coprime.mul_right
    · exact (leftReduced.coprime_dvd_left leftDvd).coprime_dvd_right leftDenDvd
    · exact Nat.coprime_div_gcd_div_gcd (Nat.gcd_pos_of_pos_right _ rightPos)
  · apply Nat.Coprime.mul_right
    · exact Nat.coprime_div_gcd_div_gcd (Nat.gcd_pos_of_pos_right _ leftPos)
    · exact (rightReduced.coprime_dvd_left rightDvd).coprime_dvd_right rightDenDvd

/-- The magnitude of a numerator divided by what it shares with a denominator. -/
theorem natAbs_ediv_gcd (num : Int) (den : Nat) :
    (num / (Integer.gcd num den : Int)).natAbs =
      num.natAbs / Nat.gcd num.natAbs den := by
  have shared : Integer.gcd num den = Nat.gcd num.natAbs den :=
    Integer.gcd_eq_natAbs_gcd num den
  rw [shared, Int.natAbs_ediv_of_dvd (Int.ofNat_dvd_left.mpr (Nat.gcd_dvd_left _ _)),
    Int.natAbs_natCast]

/-- The product, reduced crosswise before multiplying. -/
def mul (left right : Fraction) : Fraction :=
  let leftShared := Integer.gcd left.num right.den
  let rightShared := Integer.gcd right.num left.den
  { num := left.num / leftShared * (right.num / rightShared)
    den := left.den / rightShared * (right.den / leftShared)
    den_pos := by
      have leftEq : leftShared = Nat.gcd left.num.natAbs right.den :=
        Integer.gcd_eq_natAbs_gcd _ _
      have rightEq : rightShared = Nat.gcd right.num.natAbs left.den :=
        Integer.gcd_eq_natAbs_gcd _ _
      rw [leftEq, rightEq]
      exact Nat.mul_pos
        (Nat.div_pos (Nat.gcd_le_right _ left.den_pos)
          (Nat.gcd_pos_of_pos_right _ left.den_pos))
        (Nat.div_pos (Nat.gcd_le_right _ right.den_pos)
          (Nat.gcd_pos_of_pos_right _ right.den_pos))
    reduced := by
      have leftEq : leftShared = Nat.gcd left.num.natAbs right.den :=
        Integer.gcd_eq_natAbs_gcd _ _
      have rightEq : rightShared = Nat.gcd right.num.natAbs left.den :=
        Integer.gcd_eq_natAbs_gcd _ _
      rw [Int.natAbs_mul, natAbs_ediv_gcd, natAbs_ediv_gcd, leftEq, rightEq]
      exact coprime_crosswise left.den_pos right.den_pos left.reduced right.reduced }

instance : Mul Fraction := ⟨mul⟩

/-- The additive inverse. -/
def opposite (fraction : Fraction) : Fraction where
  num := -fraction.num
  den := fraction.den
  den_pos := fraction.den_pos
  reduced := by
    rw [Int.natAbs_neg]
    exact fraction.reduced

instance : Neg Fraction := ⟨opposite⟩

@[simp] theorem num_neg (fraction : Fraction) : (-fraction).num = -fraction.num := rfl

@[simp] theorem den_neg (fraction : Fraction) : (-fraction).den = fraction.den := rfl

/-- The difference, as the sum with the additive inverse. -/
def sub (left right : Fraction) : Fraction :=
  left + -right

instance : Sub Fraction := ⟨sub⟩

/-- The magnitude of a fraction. -/
def abs (fraction : Fraction) : Fraction :=
  if fraction.num < 0 then -fraction else fraction

/-- The multiplicative inverse; zero has none. The sign stays in the numerator. -/
def reciprocal (fraction : Fraction) : Except ArithmeticError Fraction :=
  if positive : 0 < fraction.num then
    .ok
      { num := fraction.den
        den := fraction.num.natAbs
        den_pos := by omega
        reduced := by
          rw [Int.natAbs_natCast]
          exact fraction.reduced.symm }
  else if negative : fraction.num < 0 then
    .ok
      { num := -fraction.den
        den := fraction.num.natAbs
        den_pos := by omega
        reduced := by
          rw [Int.natAbs_neg, Int.natAbs_natCast]
          exact fraction.reduced.symm }
  else .error .zeroReciprocal

/-- The quotient, as the product with the reciprocal; zero divides nothing. -/
def div (left right : Fraction) : Except ArithmeticError Fraction := do
  let inverse ← right.reciprocal
  return left * inverse

end Fraction
end ExactAlgebra
