import ExactAlgebra.Proofs.Guarded.Power
import ExactAlgebra.Proofs.Integer.Root
import Mathlib.Algebra.Order.Field.Power
import Mathlib.Data.Nat.Prime.Basic

/-!
# Rational powers of fractions are sound and complete

A power of a fraction with the exponent `p / q` is the real root of degree `q` of the
power with the integer exponent `p`. The fraction with this value is found whenever
there is one: since `p` and `q` are coprime, the base itself has a rational root of
degree `q`, and so numerator and denominator of the base have integer roots.
-/

namespace ExactAlgebra
namespace Fraction

/-- The rational number is the real root of a value. Of two roots with an even degree
it is the one that is not negative. -/
structure IsRealRoot (value : ℚ) (degree : Nat) (root : ℚ) : Prop where
  pow_eq : root ^ degree = value
  nonneg : Even degree → 0 ≤ root

/-- What is answered when a root is asked for: the root, or nothing when it is not
rational. -/
inductive AnswersRoot (value : ℚ) (degree : Nat) : Option Fraction → Prop
  | found (result : Fraction) (isRoot : IsRealRoot value degree result.toRat) :
      AnswersRoot value degree (some result)
  | irrational (noRoot : ∀ root, ¬IsRealRoot value degree root) :
      AnswersRoot value degree none

section Roots

variable {value root : ℚ} {degree exponent : Nat}

/-- A value has at most one real root of a degree. -/
theorem IsRealRoot.unique
    {other : ℚ}
    (degreePositive : 0 < degree)
    (isRoot : IsRealRoot value degree root)
    (isOther : IsRealRoot value degree other) :
    root = other := by
  have samePower : root ^ degree = other ^ degree := isRoot.pow_eq.trans isOther.pow_eq.symm
  rcases Nat.even_or_odd degree with even | odd
  · exact (pow_left_inj₀ (isRoot.nonneg even) (isOther.nonneg even) degreePositive.ne').mp samePower
  · exact odd.strictMono_pow.injective samePower

/-- The real root of a value that is not negative is not negative. -/
theorem IsRealRoot.nonneg_of_nonneg
    (isRoot : IsRealRoot value degree root)
    (valueNonneg : 0 ≤ value) :
    0 ≤ root := by
  rcases Nat.even_or_odd degree with even | odd
  · exact isRoot.nonneg even
  · exact odd.pow_nonneg_iff.mp (isRoot.pow_eq ▸ valueNonneg)

/-- The root of a power is the power of a root, when exponent and degree are coprime. -/
theorem isRealRoot_pow_iff (coprime : Nat.Coprime exponent degree) :
    IsRealRoot (value ^ exponent) degree root ↔
      ∃ part, IsRealRoot value degree part ∧ part ^ exponent = root := by
  constructor
  · rintro ⟨power, nonneg⟩
    obtain ⟨part, rfl, rfl⟩ := (pow_eq_pow_iff_of_coprime coprime.symm).mp power
    refine ⟨part, ⟨rfl, fun even => ?_⟩, rfl⟩
    have odd : Odd exponent :=
      Nat.coprime_two_right.mp (coprime.coprime_dvd_right even.two_dvd)
    exact odd.pow_nonneg_iff.mp (nonneg even)
  · rintro ⟨part, isPart, rfl⟩
    refine ⟨?_, fun even => pow_nonneg (isPart.nonneg even) exponent⟩
    rw [← isPart.pow_eq, ← pow_mul, ← pow_mul, Nat.mul_comm]

/-- Only one answer is right. -/
theorem AnswersRoot.unique
    {answer other : Option Fraction}
    (degreePositive : 0 < degree)
    (answers : AnswersRoot value degree answer)
    (otherAnswers : AnswersRoot value degree other) :
    answer = other := by
  cases answers with
  | found result isRoot =>
      cases otherAnswers with
      | found otherResult isOther => rw [toRat_inj.mp (isRoot.unique degreePositive isOther)]
      | irrational noRoot => exact absurd isRoot (noRoot _)
  | irrational noRoot =>
      cases otherAnswers with
      | found otherResult isOther => exact absurd isOther (noRoot _)
      | irrational => rfl

theorem answersRoot_some_iff {result : Fraction} :
    AnswersRoot value degree (some result) ↔ IsRealRoot value degree result.toRat := by
  constructor
  · rintro ⟨⟩
    assumption
  · exact .found result

theorem answersRoot_none_iff :
    AnswersRoot value degree none ↔ ¬∃ root, IsRealRoot value degree root := by
  rw [not_exists]
  constructor
  · rintro ⟨⟩
    assumption
  · exact .irrational

end Roots

/-! ## Roots of numerator and denominator -/

variable {base : Fraction} {degree : Nat}

/-- A rational root of a fraction has the roots of its parts as parts. -/
theorem signedRoot?_of_isRealRoot
    {root : ℚ}
    (degreePositive : 0 < degree)
    (real : ¬(degree % 2 = 0 ∧ base.num < 0))
    (isRoot : IsRealRoot base.toRat degree root) :
    Integer.signedRoot? base.num degree = some root.num ∧
      Integer.exactRoot? base.den degree = some root.den := by
  have numPower : root.num ^ degree = base.num := by
    rw [← Rat.num_pow, isRoot.pow_eq, num_toRat]
  have denPower : root.den ^ degree = base.den := by
    rw [← Rat.den_pow, isRoot.pow_eq, den_toRat]
  refine ⟨(Integer.signedRoot?_eq_some_iff degreePositive real).mpr ⟨numPower, fun even => ?_⟩,
    (Integer.exactRoot?_eq_some_iff degreePositive).mpr denPower⟩
  exact Rat.num_nonneg.mpr (isRoot.nonneg even)

/-- The roots of its parts are the parts of a root of a fraction. -/
theorem isRealRoot_of_signedRoot?
    {numRoot : Int}
    {denRoot : Nat}
    (degreePositive : 0 < degree)
    (real : ¬(degree % 2 = 0 ∧ base.num < 0))
    (numFound : Integer.signedRoot? base.num degree = some numRoot)
    (denFound : Integer.exactRoot? base.den degree = some denRoot) :
    IsRealRoot base.toRat degree (numRoot / denRoot) := by
  obtain ⟨numPower, nonneg⟩ := (Integer.signedRoot?_eq_some_iff degreePositive real).mp numFound
  have denPower := (Integer.exactRoot?_eq_some_iff degreePositive).mp denFound
  refine ⟨?_, fun even => div_nonneg (Int.cast_nonneg (nonneg even)) (Nat.cast_nonneg _)⟩
  rw [toRat_eq_div, div_pow, ← numPower, ← denPower]
  push_cast
  rfl

/-- The power of a rational root is found. -/
theorem exists_rootPower_eq_some
    {root : ℚ}
    (degreePositive : 0 < degree)
    (real : ¬(degree % 2 = 0 ∧ base.num < 0))
    (isRoot : IsRealRoot base.toRat degree root)
    (exponent : Nat) :
    ∃ result, base.rootPower degree exponent = .ok (some result) ∧
      result.toRat = root ^ exponent := by
  obtain ⟨numFound, denFound⟩ := signedRoot?_of_isRealRoot degreePositive real isRoot
  have nonzero : Integer.power root.den exponent ≠ 0 := by
    rw [Integer.power_eq_hPow]
    exact pow_ne_zero _ (Int.natCast_ne_zero.mpr root.den_nz)
  obtain ⟨result, quotient, value⟩ :=
    @exists_ofQuotient_eq_ok (Integer.power root.num exponent) _ nonzero
  refine ⟨result, ?_, ?_⟩
  · simp only [rootPower, numFound, denFound, quotient]
    rfl
  · rw [value, Integer.power_eq_hPow, Integer.power_eq_hPow]
    push_cast
    rw [← div_pow, Rat.num_div_den]

/-- Without a rational root there is no answer. -/
theorem rootPower_eq_none
    (degreePositive : 0 < degree)
    (real : ¬(degree % 2 = 0 ∧ base.num < 0))
    (noRoot : ∀ root, ¬IsRealRoot base.toRat degree root)
    (exponent : Nat) :
    base.rootPower degree exponent = .ok none := by
  unfold rootPower
  split
  · rename_i numFound denFound
    exact absurd (isRealRoot_of_signedRoot? degreePositive real numFound denFound) (noRoot _)
  · rfl

/-- The power of a root answers which root the power has. -/
theorem exists_rootPower_eq_ok
    {exponent : Nat}
    (degreePositive : 0 < degree)
    (real : ¬(degree % 2 = 0 ∧ base.num < 0))
    (coprime : Nat.Coprime exponent degree) :
    ∃ answer, base.rootPower degree exponent = .ok answer ∧
      AnswersRoot (base.toRat ^ exponent) degree answer := by
  by_cases rational : ∃ root, IsRealRoot base.toRat degree root
  · obtain ⟨root, isRoot⟩ := rational
    obtain ⟨result, success, value⟩ :=
      exists_rootPower_eq_some degreePositive real isRoot exponent
    refine ⟨some result, success, .found result ?_⟩
    exact (isRealRoot_pow_iff coprime).mpr ⟨root, isRoot, value.symm⟩
  · rw [not_exists] at rational
    refine ⟨none, rootPower_eq_none degreePositive real rational exponent, .irrational ?_⟩
    intro root isRoot
    obtain ⟨part, isPart, _⟩ := (isRealRoot_pow_iff coprime).mp isRoot
    exact rational part isPart

/-! ## Rational powers -/

/-- A negative number has no real root with an even degree, and neither have its powers
with an odd exponent. -/
theorem not_isRealRoot_zpow
    {exponent : Fraction}
    (even : exponent.den % 2 = 0)
    (negative : base.num < 0)
    (root : ℚ) :
    ¬IsRealRoot (base.toRat ^ exponent.num) exponent.den root := by
  intro isRoot
  have odd : Odd exponent.num := Int.natAbs_odd.mp <|
    Nat.coprime_two_right.mp (exponent.reduced.coprime_dvd_right (Nat.dvd_of_mod_eq_zero even))
  have below : base.toRat ^ exponent.num < 0 := odd.zpow_neg_iff.mpr (Rat.num_neg.mp negative)
  rw [← isRoot.pow_eq] at below
  exact absurd ((Nat.even_iff.mpr even).pow_nonneg root) (not_le.mpr below)

/-- Wherever a power is defined, it answers which real root it is. -/
theorem exists_pow_answersRoot
    (base exponent : Fraction)
    (defined : base ≠ 0 ∨ 0 < exponent.num) :
    ∃ answer, base.pow exponent = .ok answer ∧
      AnswersRoot (base.toRat ^ exponent.num) exponent.den answer := by
  rw [pow]
  by_cases isZero : exponent = 0
  · have nonzero : base ≠ 0 := by
      rcases defined with nonzero | positive
      · exact nonzero
      · simp [isZero] at positive
    rw [if_pos isZero, if_neg nonzero, isZero]
    exact ⟨some 1, rfl, .found 1 ⟨by simp, fun even => absurd even (by decide)⟩⟩
  · rw [if_neg isZero]
    by_cases isOne : exponent = 1
    · rw [if_pos isOne, isOne]
      exact ⟨some base, rfl, .found base ⟨by simp, fun even => absurd even (by decide)⟩⟩
    · rw [if_neg isOne]
      by_cases unreal : exponent.den % 2 = 0 ∧ base.num < 0
      · rw [if_pos unreal]
        exact ⟨none, rfl, .irrational (not_isRealRoot_zpow unreal.1 unreal.2)⟩
      · rw [if_neg unreal]
        by_cases negative : exponent.num < 0
        · rw [if_pos negative]
          obtain ⟨inverse, inverted, value⟩ :=
            exists_reciprocal_eq_ok (defined.resolve_right (by omega))
          have inverseReal : ¬(exponent.den % 2 = 0 ∧ inverse.num < 0) := by
            rwa [num_lt_zero_iff_of_reciprocal_eq_ok inverted]
          obtain ⟨answer, success, answers⟩ :=
            exists_rootPower_eq_ok exponent.den_pos inverseReal exponent.reduced
          have power : inverse.toRat ^ exponent.num.natAbs = base.toRat ^ exponent.num := by
            have magnitude : exponent.num = -((exponent.num.natAbs : Nat) : Int) := by omega
            rw [value, inv_pow]
            conv => rhs; rw [magnitude, zpow_neg, zpow_natCast]
          rw [power] at answers
          refine ⟨answer, ?_, answers⟩
          rw [inverted]
          exact success
        · rw [if_neg negative]
          obtain ⟨answer, success, answers⟩ :=
            exists_rootPower_eq_ok exponent.den_pos unreal exponent.reduced
          have power : base.toRat ^ exponent.num.natAbs = base.toRat ^ exponent.num := by
            have magnitude : exponent.num = ((exponent.num.natAbs : Nat) : Int) := by omega
            conv => rhs; rw [magnitude, zpow_natCast]
          rw [power] at answers
          exact ⟨answer, success, answers⟩

/-- A power is undefined only for zero with an exponent that is not positive. -/
theorem pow_eq_error_iff {base exponent : Fraction} {cause : ArithmeticError} :
    base.pow exponent = .error cause ↔
      base = 0 ∧
        (exponent = 0 ∧ cause = .zeroToTheZero ∨ exponent.num < 0 ∧ cause = .zeroReciprocal) := by
  constructor
  · intro failure
    have undefined : ¬(base ≠ 0 ∨ 0 < exponent.num) := by
      intro defined
      obtain ⟨answer, success, _⟩ := exists_pow_answersRoot base exponent defined
      rw [success] at failure
      cases failure
    rw [not_or, not_not, not_lt] at undefined
    obtain ⟨rfl, notPositive⟩ := undefined
    refine ⟨rfl, ?_⟩
    by_cases isZero : exponent = 0
    · rw [pow, if_pos isZero, if_pos rfl] at failure
      cases failure
      exact .inl ⟨isZero, rfl⟩
    · have numNonzero : exponent.num ≠ 0 := mt (num_eq_zero_iff exponent).mp isZero
      have negative : exponent.num < 0 := by omega
      rw [pow_zero_of_num_neg negative] at failure
      cases failure
      exact .inr ⟨negative, rfl⟩
  · rintro ⟨rfl, ⟨rfl, rfl⟩ | ⟨negative, rfl⟩⟩
    · rfl
    · exact pow_zero_of_num_neg negative

/-- What a power answers is exactly what the root is that it asks for. -/
theorem pow_eq_ok_iff {base exponent : Fraction} {answer : Option Fraction} :
    base.pow exponent = .ok answer ↔
      (base ≠ 0 ∨ 0 < exponent.num) ∧
        AnswersRoot (base.toRat ^ exponent.num) exponent.den answer := by
  by_cases defined : base ≠ 0 ∨ 0 < exponent.num
  · rw [and_iff_right defined]
    obtain ⟨own, success, answers⟩ := exists_pow_answersRoot base exponent defined
    rw [success]
    constructor
    · intro same
      cases same
      exact answers
    · intro others
      rw [answers.unique exponent.den_pos others]
  · refine ⟨fun success => ?_, fun both => absurd both.1 defined⟩
    rw [not_or, not_not, not_lt] at defined
    obtain ⟨cause, failure⟩ := exists_pow_zero_eq_error defined.2
    rw [defined.1, failure] at success
    cases success

/-- Rational powers are sound and complete. A power is refused for zero to the exponent
zero, and for zero to a negative exponent, and nowhere else. Otherwise the fraction that
is the real root is found, and nothing is answered only if no rational number is. The
computation divides by no zero, asks for no root of a degree that is not positive or of
even degree of a negative number, and raises no integer to a negative exponent. -/
theorem pow_sound_and_complete (base exponent : Fraction) :
    (base.pow exponent = .error .zeroToTheZero ↔ base = 0 ∧ exponent = 0) ∧
      (base.pow exponent = .error .zeroReciprocal ↔ base = 0 ∧ exponent.num < 0) ∧
      (∀ result, base.pow exponent = .ok (some result) ↔
        ¬(base = 0 ∧ exponent.num ≤ 0) ∧
          IsRealRoot (base.toRat ^ exponent.num) exponent.den result.toRat) ∧
      (base.pow exponent = .ok none ↔
        ¬(base = 0 ∧ exponent.num ≤ 0) ∧
          ¬∃ root, IsRealRoot (base.toRat ^ exponent.num) exponent.den root) ∧
      Guarded.pow base exponent =
        (base.pow exponent).mapError (.rewrite <| .arithmetic ·) := by
  have definedIff : ¬(base = 0 ∧ exponent.num ≤ 0) ↔ base ≠ 0 ∨ 0 < exponent.num := by
    rw [not_and_or, not_le]
  rw [definedIff]
  refine ⟨?_, ?_, fun _ => ?_, ?_, Guarded.pow_eq base exponent⟩
  · simp [pow_eq_error_iff]
  · simp [pow_eq_error_iff]
  · rw [pow_eq_ok_iff, answersRoot_some_iff]
  · rw [pow_eq_ok_iff, answersRoot_none_iff]

/-- The cube root of minus eight twenty-sevenths, inverted and squared. -/
example : pow ⟨-8, 27, by decide, by decide⟩ ⟨-2, 3, by decide, by decide⟩ =
    .ok (some ⟨9, 4, by decide, by decide⟩) := by
  decide +kernel

end Fraction
end ExactAlgebra
