import ExactAlgebra.Integer.Gcd

/-!
# Reduced fractions

A fraction carries its sign in the numerator, has a positive denominator and is
in lowest terms. These conditions are part of the type, so two fractions are
equal exactly when their numerators and denominators are.
-/

namespace ExactAlgebra

/-- A rational number in lowest terms with a positive denominator. -/
structure Fraction where
  num : Int
  den : Nat
  den_pos : 0 < den
  reduced : Nat.Coprime num.natAbs den
  deriving DecidableEq

/-- The ways in which arithmetic on fractions has no answer. -/
inductive ArithmeticError
  /-- A quotient of integers with denominator zero. -/
  | zeroDenominator
  /-- The reciprocal of zero. -/
  | zeroReciprocal
  /-- Zero raised to the exponent zero. -/
  | zeroToTheZero
  deriving DecidableEq

namespace ArithmeticError

/-- The wording of an arithmetic error. -/
def message : ArithmeticError → String
  | zeroDenominator => "rational number denominator cannot be zero"
  | zeroReciprocal => "Reciprocal of zero is undefined"
  | zeroToTheZero => "Cannot evaluate 0^0"

end ArithmeticError

namespace Fraction

/-- Two fractions with the same numerator and denominator are the same. -/
@[ext] theorem ext
    {left right : Fraction}
    (sameNum : left.num = right.num)
    (sameDen : left.den = right.den) :
    left = right := by
  cases left
  cases right
  cases sameNum
  cases sameDen
  rfl

/-- An integer as a fraction. -/
def ofInt (number : Int) : Fraction where
  num := number
  den := 1
  den_pos := Nat.one_pos
  reduced := Nat.coprime_one_right _

@[simp] theorem num_ofInt (number : Int) : (ofInt number).num = number := rfl

@[simp] theorem den_ofInt (number : Int) : (ofInt number).den = 1 := rfl

instance (literal : Nat) : OfNat Fraction literal := ⟨ofInt literal⟩

instance : Inhabited Fraction := ⟨0⟩

@[simp] theorem num_zero : (0 : Fraction).num = 0 := rfl

@[simp] theorem den_zero : (0 : Fraction).den = 1 := rfl

@[simp] theorem num_one : (1 : Fraction).num = 1 := rfl

@[simp] theorem den_one : (1 : Fraction).den = 1 := rfl

/-- A fraction is zero exactly when its numerator is. -/
theorem num_eq_zero_iff (fraction : Fraction) : fraction.num = 0 ↔ fraction = 0 := by
  constructor
  · intro zero
    have coprime := fraction.reduced
    rw [zero] at coprime
    exact ext zero ((Nat.coprime_zero_left _).mp coprime)
  · intro zero
    rw [zero]
    rfl

/-- Divide numerator and denominator by what they share. -/
def reduce
    (num : Int)
    (den : Nat)
    (pos : 0 < den) : Fraction :=
  let divisor := Integer.gcd num den
  { num := num / divisor
    den := den / divisor
    den_pos := by
      have shared : divisor = Nat.gcd num.natAbs den := Integer.gcd_eq_natAbs_gcd num den
      rw [shared]
      exact Nat.div_pos (Nat.gcd_le_right _ pos) (Nat.gcd_pos_of_pos_right _ pos)
    reduced := by
      have shared : divisor = Nat.gcd num.natAbs den := Integer.gcd_eq_natAbs_gcd num den
      rw [shared, Int.natAbs_ediv_of_dvd (Int.ofNat_dvd_left.mpr (Nat.gcd_dvd_left _ _)),
        Int.natAbs_natCast]
      exact Nat.coprime_div_gcd_div_gcd (Nat.gcd_pos_of_pos_right _ pos) }

/-- The quotient of two integers in lowest terms. A negative denominator moves
its sign to the numerator, and the denominator zero is refused. -/
def ofQuotient (num den : Int) : Except ArithmeticError Fraction :=
  if positive : 0 < den then
    .ok (reduce num den.toNat (by omega))
  else if negative : den < 0 then
    .ok (reduce (-num) (-den).toNat (by omega))
  else .error .zeroDenominator

/-- The denominator is one. -/
def isInteger (fraction : Fraction) : Bool :=
  fraction.den = 1

/-- Minus one, zero or one, as the fraction is negative, zero or positive. -/
def sign (fraction : Fraction) : Int :=
  fraction.num.sign

/-- Order by value, comparing the numerators over the common denominator. -/
def compare (left right : Fraction) : Ordering :=
  Ord.compare (left.num * right.den) (right.num * left.den)

instance : Ord Fraction := ⟨compare⟩

/-- The numerator alone, or numerator and denominator around a slash. -/
def text (fraction : Fraction) : String :=
  if fraction.den = 1 then toString fraction.num
  else toString fraction.num ++ "/" ++ toString fraction.den

end Fraction
end ExactAlgebra
