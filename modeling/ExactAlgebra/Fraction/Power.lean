import ExactAlgebra.Fraction.Arithmetic
import ExactAlgebra.Integer.Power
import ExactAlgebra.Integer.Root

/-!
# Rational powers of fractions

A fraction raised to a rational exponent is often irrational. The power here
answers with a fraction when there is one, with `none` when the result is not a
real rational number, and with an error for zero to the exponent zero and for
zero to a negative exponent.
-/

namespace ExactAlgebra
namespace Fraction

/-- The power of the root of the given degree, when numerator and denominator
both have such a root. -/
def rootPower
    (base : Fraction)
    (degree exponent : Nat) : Except ArithmeticError (Option Fraction) :=
  match Integer.signedRoot? base.num degree, Integer.exactRoot? base.den degree with
  | some numRoot, some denRoot => do
      let result ← ofQuotient
        (Integer.power numRoot exponent) (Integer.power denRoot exponent)
      return some result
  | _, _ => .ok none

/-- A fraction raised to a rational exponent. The denominator of the exponent is
the degree of a root, a negative exponent applies to the reciprocal of the base,
and an even root of a negative base is not real. -/
def pow (base exponent : Fraction) : Except ArithmeticError (Option Fraction) :=
  if exponent = 0 then
    if base = 0 then .error .zeroToTheZero else .ok (some 1)
  else if exponent = 1 then .ok (some base)
  else if exponent.den % 2 = 0 ∧ base.num < 0 then .ok none
  else if exponent.num < 0 then do
    let inverse ← base.reciprocal
    inverse.rootPower exponent.den exponent.num.natAbs
  else base.rootPower exponent.den exponent.num.natAbs

end Fraction
end ExactAlgebra
