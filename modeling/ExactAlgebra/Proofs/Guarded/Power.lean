import ExactAlgebra.Proofs.FailingMap
import ExactAlgebra.Proofs.Fraction.IntegerPower
import ExactAlgebra.Proofs.Integer.Root
import ExactAlgebra.Workbench.Fault

/-!
# Guarded roots and powers

Roots and powers divide by powers of an estimate and raise to exponents that come out
of a computation. Here these steps are guarded: they refuse to divide by zero and to
raise to a negative exponent, and roots are asked for only after their degree and their
sign are checked. No power of fractions ever meets a guard. Newton's estimates stay
positive, denominators are positive degrees, and even roots of negative numbers are left
out beforehand.
-/

namespace ExactAlgebra
namespace Guarded

open ExactAlgebra.Workbench

/-- The number of factors that an exponent asks for. -/
def factorCount (exponent : Int) : Outcome Nat :=
  if exponent < 0 then .error .negativeExponent else .ok exponent.toNat

/-- The quotient of natural numbers, rounded down. -/
def floorDiv (dividend divisor : Nat) : Outcome Nat :=
  if divisor = 0 then .error (.divisionByZero false) else .ok (dividend / divisor)

/-- One Newton step towards the root of `radicand`, rounded down. -/
def newtonStep (radicand degree estimate : Nat) : Outcome Nat := do
  let count ← factorCount ((degree : Int) - 1)
  let quotient ← floorDiv radicand (Nat.pow estimate count)
  floorDiv ((degree - 1) * estimate + quotient) degree

/-- Iterate Newton steps while they decrease, and return the last estimate. -/
def newtonDescent (radicand degree estimate : Nat) : Outcome Nat :=
  match newtonStep radicand degree estimate with
  | .error fault => .error fault
  | .ok next => if next < estimate then newtonDescent radicand degree next else .ok estimate
termination_by estimate

/-- The first estimate, a power of two that is not below the root. -/
def rootCeiling (radicand degree : Nat) : Outcome Nat := do
  let shift ← floorDiv (Integer.bitLength radicand + degree - 1) degree
  return Nat.pow 2 shift

/-- Floor of the root of a natural number. -/
def floorRoot (radicand degree : Nat) : Outcome Nat :=
  if radicand < 2 then .ok radicand
  else do newtonDescent radicand degree (← rootCeiling radicand degree)

/-- The integer whose power is the radicand, `none` when the root is not perfect. -/
def perfectRoot (radicand degree : Int) : Outcome (Option Int) :=
  if degree ≤ 0 then .error (.root .degreeNotPositive)
  else if radicand < 0 ∧ degree % 2 = 0 then .error (.root .evenRootOfNegative)
  else do
    let root ← floorRoot radicand.natAbs degree.toNat
    let count ← factorCount degree
    return if Nat.pow root count = radicand.natAbs then
      some (if radicand < 0 then -(root : Int) else (root : Int))
    else none

/-- An integer power. -/
def integerPower (base exponent : Int) : Outcome Int := do
  return Integer.power base (← factorCount exponent)

/-- The power of the root of the given degree, when numerator and denominator both have
such a root. -/
def rootPower (base exponent : Fraction) : Outcome (Option Fraction) := do
  let numRoot? ← perfectRoot base.num exponent.den
  let denRoot? ← perfectRoot base.den exponent.den
  match numRoot?, denRoot? with
  | some numRoot, some denRoot => do
      let num ← integerPower numRoot exponent.num
      let den ← integerPower denRoot exponent.num
      return some (← (Fraction.ofQuotient num den).mapError (.rewrite <| .arithmetic ·))
  | _, _ => return none

/-- A fraction raised to a rational exponent. -/
def pow (base exponent : Fraction) : Outcome (Option Fraction) :=
  if exponent = 0 then
    if base = 0 then .error (.rewrite (.arithmetic .zeroToTheZero)) else .ok (some 1)
  else if exponent = 1 then .ok (some base)
  else if exponent.den % 2 = 0 ∧ base.num < 0 then .ok none
  else if exponent.num < 0 then do
    rootPower (← base.reciprocal.mapError (.rewrite <| .arithmetic ·)) (-exponent)
  else rootPower base exponent

/-! ## The guards are never met -/

theorem factorCount_of_nonneg {exponent : Int} (nonneg : 0 ≤ exponent) :
    factorCount exponent = .ok exponent.toNat :=
  if_neg (not_lt.mpr nonneg)

theorem floorDiv_of_pos {divisor : Nat} (positive : 0 < divisor) (dividend : Nat) :
    floorDiv dividend divisor = .ok (dividend / divisor) :=
  if_neg positive.ne'

section Newton

variable {radicand degree estimate : Nat} (degreePositive : 0 < degree)
include degreePositive

theorem newtonStep_eq (positive : 0 < estimate) :
    newtonStep radicand degree estimate = .ok (Integer.newtonStep radicand degree estimate) := by
  have count : ((degree : Int) - 1).toNat = degree - 1 := by omega
  rw [newtonStep, factorCount_of_nonneg (by omega), count]
  change (floorDiv radicand (Nat.pow estimate (degree - 1)) >>= fun _ => _) = _
  have divisor : 0 < Nat.pow estimate (degree - 1) := Nat.pow_pos positive
  rw [floorDiv_of_pos divisor]
  exact floorDiv_of_pos degreePositive _

/-- The descent starts positive and stays positive. -/
theorem newtonDescent_eq (radicandPositive : 0 < radicand) (positive : 0 < estimate) :
    newtonDescent radicand degree estimate =
      .ok (Integer.newtonDescent radicand degree estimate) := by
  induction estimate using Nat.strong_induction_on with
  | h estimate hypothesis =>
      rw [newtonDescent, newtonStep_eq degreePositive positive, Integer.newtonDescent]
      dsimp only
      split
      · rename_i decreases
        exact hypothesis _ decreases
          (Integer.newtonStep_pos radicandPositive degreePositive positive)
      · rfl

end Newton

theorem floorRoot_eq (radicand : Nat) {degree : Nat} (positive : 0 < degree) :
    floorRoot radicand degree = .ok (Integer.floorRoot radicand degree) := by
  rw [floorRoot, Integer.floorRoot]
  split
  · rfl
  · rename_i several
    rw [rootCeiling, floorDiv_of_pos positive]
    exact newtonDescent_eq positive (by omega) (Nat.pow_pos Nat.two_pos)

/-- Apart from the two causes for which it is refused, a root always has an answer. -/
theorem perfectRoot_eq (radicand degree : Int) :
    perfectRoot radicand degree = (Integer.perfectRoot radicand degree).mapError .root := by
  rw [perfectRoot, Integer.perfectRoot]
  split
  · rfl
  · rename_i positive
    split
    · rfl
    · have naturalPositive : 0 < degree.toNat := by omega
      rw [floorRoot_eq _ naturalPositive, factorCount_of_nonneg (by omega), Integer.signedRoot?,
        Integer.exactRoot?_eq _ naturalPositive]
      by_cases perfect : Integer.floorRoot radicand.natAbs degree.toNat ^ degree.toNat =
          radicand.natAbs
      · rw [if_pos perfect]
        exact congrArg Except.ok (if_pos perfect)
      · rw [if_neg perfect]
        exact congrArg Except.ok (if_neg perfect)

theorem perfectRoot_of_den
    {radicand : Int}
    {degree : Nat}
    (positive : 0 < degree)
    (real : ¬(degree % 2 = 0 ∧ radicand < 0)) :
    perfectRoot radicand degree = .ok (Integer.signedRoot? radicand degree) := by
  rw [perfectRoot_eq, Integer.perfectRoot, if_neg (by omega), if_neg (by omega),
    Int.toNat_natCast]
  rfl

theorem integerPower_of_nonneg (base : Int) {exponent : Int} (nonneg : 0 ≤ exponent) :
    integerPower base exponent = .ok (Integer.power base exponent.toNat) := by
  rw [integerPower, factorCount_of_nonneg nonneg]
  rfl

/-- A denominator is positive, so its signed root is the natural one. -/
theorem signedRoot?_natCast (radicand degree : Nat) :
    Integer.signedRoot? radicand degree =
      (Integer.exactRoot? radicand degree).map fun root => (root : Int) := by
  have nonneg : ¬(radicand : Int) < 0 := by omega
  simp only [Integer.signedRoot?, Int.natAbs_natCast, nonneg, if_false]

theorem rootPower_eq
    {base exponent : Fraction}
    (nonneg : 0 ≤ exponent.num)
    (real : ¬(exponent.den % 2 = 0 ∧ base.num < 0)) :
    rootPower base exponent =
      (base.rootPower exponent.den exponent.num.natAbs).mapError (.rewrite <| .arithmetic ·) := by
  have magnitude : exponent.num.toNat = exponent.num.natAbs := by omega
  rw [rootPower, perfectRoot_of_den exponent.den_pos real,
    perfectRoot_of_den exponent.den_pos (by omega), signedRoot?_natCast, Fraction.rootPower]
  cases Integer.signedRoot? base.num exponent.den with
  | none => rfl
  | some numRoot =>
      cases Integer.exactRoot? base.den exponent.den with
      | none => rfl
      | some denRoot =>
          change (integerPower numRoot exponent.num >>= fun num =>
            integerPower denRoot exponent.num >>= fun den => _) = _
          rw [integerPower_of_nonneg _ nonneg, integerPower_of_nonneg _ nonneg, magnitude,
            mapError_bind]
          rfl

/-- No power of fractions meets a guard: it has an answer, or it is refused for an
arithmetic cause. -/
theorem pow_eq (base exponent : Fraction) :
    pow base exponent = (base.pow exponent).mapError (.rewrite <| .arithmetic ·) := by
  rw [pow, Fraction.pow]
  split
  · split <;> rfl
  · split
    · rfl
    · split
      · rfl
      · rename_i real
        split
        · rename_i negative
          rw [mapError_bind]
          cases inverted : base.reciprocal with
          | error cause => rfl
          | ok inverse =>
              have sameSign := Fraction.num_lt_zero_iff_of_reciprocal_eq_ok inverted
              have opposite : 0 ≤ (-exponent).num := by
                rw [Fraction.num_neg]
                omega
              change rootPower inverse (-exponent) = _
              rw [rootPower_eq opposite (by rwa [Fraction.den_neg, sameSign]), Fraction.num_neg,
                Int.natAbs_neg]
              rfl
        · rename_i nonneg
          exact rootPower_eq (not_lt.mp nonneg) real

end Guarded
end ExactAlgebra
