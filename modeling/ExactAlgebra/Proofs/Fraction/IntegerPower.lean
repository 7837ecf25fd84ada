import ExactAlgebra.Proofs.Fraction.Rational

/-!
# Integer powers of fractions

A power whose exponent is an integer needs no root: roots of degree one are the
radicands themselves. Such a power is refused exactly for the base zero with an
exponent that is not positive, and otherwise it is the power of the value. So an
irrational power has an exponent that is no integer, and its inverse is irrational
too.
-/

namespace ExactAlgebra
namespace Integer

@[simp] theorem newtonStep_one (radicand estimate : Nat) :
    newtonStep radicand 1 estimate = radicand := by
  simp [newtonStep]

theorem newtonDescent_one {radicand estimate : Nat} (above : radicand ≤ estimate) :
    newtonDescent radicand 1 estimate = radicand := by
  rw [newtonDescent, newtonStep_one]
  split
  · rw [newtonDescent, newtonStep_one, if_neg (Nat.lt_irrefl radicand)]
  · omega

/-- The first estimate for the root of degree one is not below the radicand. -/
theorem le_rootCeiling_one (radicand : Nat) : radicand ≤ rootCeiling radicand 1 := by
  rw [rootCeiling, bitLength]
  split
  · omega
  · have below : radicand < 2 ^ (Nat.log2 radicand + 1) := Nat.lt_log2_self
    simpa using below.le

@[simp] theorem floorRoot_one (radicand : Nat) : floorRoot radicand 1 = radicand := by
  rw [floorRoot]
  split
  · rfl
  · exact newtonDescent_one (le_rootCeiling_one radicand)

@[simp] theorem exactRoot?_one (radicand : Nat) : exactRoot? radicand 1 = some radicand := by
  simp [exactRoot?]

@[simp] theorem signedRoot?_one (radicand : Int) : signedRoot? radicand 1 = some radicand := by
  rw [signedRoot?, exactRoot?_one]
  change some (if radicand < 0 then -((radicand.natAbs : Nat) : Int) else radicand.natAbs) = _
  congr 1
  split <;> omega

theorem power_eq_hPow (base : Int) (exponent : Nat) : power base exponent = base ^ exponent :=
  power_eq_pow base exponent

end Integer

namespace Fraction

/-- A quotient with a denominator other than zero has the value of the quotient. -/
theorem exists_ofQuotient_eq_ok {num den : Int} (nonzero : den ≠ 0) :
    ∃ result, ofQuotient num den = .ok result ∧ result.toRat = (num : ℚ) / (den : ℚ) := by
  unfold ofQuotient
  split
  · rename_i positive
    refine ⟨_, rfl, ?_⟩
    rw [toRat_reduce, ← Int.cast_natCast, Int.toNat_of_nonneg positive.le]
  · rename_i notPositive
    have negative : den < 0 := by omega
    rw [dif_pos negative]
    refine ⟨_, rfl, ?_⟩
    rw [toRat_reduce, ← Int.cast_natCast, Int.toNat_of_nonneg (by omega), Int.cast_neg,
      Int.cast_neg, neg_div_neg_eq]

/-- The reciprocal of a fraction other than zero has the inverse value. -/
theorem exists_reciprocal_eq_ok {fraction : Fraction} (nonzero : fraction ≠ 0) :
    ∃ inverse, fraction.reciprocal = .ok inverse ∧ inverse.toRat = fraction.toRat⁻¹ := by
  have numNonzero : fraction.num ≠ 0 := mt (num_eq_zero_iff fraction).mp nonzero
  unfold reciprocal
  split
  · rename_i positive
    have magnitude : ((fraction.num.natAbs : Nat) : Int) = fraction.num := by omega
    refine ⟨_, rfl, ?_⟩
    rw [toRat_eq_div, toRat_eq_div, inv_div, ← Int.cast_natCast (R := ℚ) fraction.num.natAbs,
      magnitude, Int.cast_natCast]
  · have negative : fraction.num < 0 := by omega
    have magnitude : ((fraction.num.natAbs : Nat) : Int) = -fraction.num := by omega
    rw [dif_pos negative]
    refine ⟨_, rfl, ?_⟩
    rw [toRat_eq_div, toRat_eq_div, inv_div, ← Int.cast_natCast (R := ℚ) fraction.num.natAbs,
      magnitude, Int.cast_neg, Int.cast_neg, Int.cast_natCast, neg_div_neg_eq]

@[simp] theorem reciprocal_zero : reciprocal 0 = .error .zeroReciprocal := rfl

/-- A power without a root is the power of the value. -/
theorem exists_rootPower_one_eq_ok (base : Fraction) (exponent : Nat) :
    ∃ result,
      base.rootPower 1 exponent = .ok (some result) ∧ result.toRat = base.toRat ^ exponent := by
  have nonzero : Integer.power (base.den : Int) exponent ≠ 0 := by
    rw [Integer.power_eq_hPow]
    exact pow_ne_zero _ (Int.natCast_ne_zero.mpr (Nat.pos_iff_ne_zero.mp base.den_pos))
  obtain ⟨result, quotient, value⟩ : ∃ result,
      ofQuotient (Integer.power base.num exponent) (Integer.power base.den exponent) =
          .ok result ∧
        result.toRat = (Integer.power base.num exponent : ℚ) / (Integer.power base.den exponent : ℚ) :=
    exists_ofQuotient_eq_ok nonzero
  refine ⟨result, ?_, ?_⟩
  · simp only [rootPower, Integer.signedRoot?_one, Integer.exactRoot?_one, quotient]
    rfl
  · rw [value, Integer.power_eq_hPow, Integer.power_eq_hPow, toRat_eq_div, div_pow]
    push_cast
    rfl

/-- A power with an integer exponent is the power of the value, unless the base is
zero and the exponent is not positive. -/
theorem exists_pow_eq_ok
    {base exponent : Fraction}
    (integer : exponent.den = 1)
    (defined : base ≠ 0 ∨ 0 < exponent.num) :
    ∃ result,
      base.pow exponent = .ok (some result) ∧
        result.toRat = base.toRat ^ exponent.num := by
  have exponentEq : exponent = ofInt exponent.num := ext rfl integer
  rw [pow]
  by_cases isZero : exponent = 0
  · have baseNonzero : base ≠ 0 := by
      rcases defined with nonzero | positive
      · exact nonzero
      · simp [isZero] at positive
    refine ⟨1, by rw [if_pos isZero, if_neg baseNonzero], ?_⟩
    simp [isZero]
  · rw [if_neg isZero]
    by_cases isOne : exponent = 1
    · exact ⟨base, by rw [if_pos isOne], by simp [isOne]⟩
    · rw [if_neg isOne, if_neg (by omega), integer]
      by_cases negative : exponent.num < 0
      · obtain ⟨inverse, found, inverseValue⟩ :=
          exists_reciprocal_eq_ok (defined.resolve_right (by omega))
        obtain ⟨result, power, value⟩ :=
          exists_rootPower_one_eq_ok inverse exponent.num.natAbs
        refine ⟨result, ?_, ?_⟩
        · rw [if_pos negative, found]
          exact power
        · have magnitude : exponent.num = -((exponent.num.natAbs : Nat) : Int) := by omega
          rw [value, inverseValue, inv_pow]
          conv => rhs; rw [magnitude, zpow_neg, zpow_natCast]
      · obtain ⟨result, power, value⟩ := exists_rootPower_one_eq_ok base exponent.num.natAbs
        refine ⟨result, by rw [if_neg negative, power], ?_⟩
        have magnitude : exponent.num = ((exponent.num.natAbs : Nat) : Int) := by omega
        rw [value]
        conv => rhs; rw [magnitude, zpow_natCast]

/-- A negative power of zero asks for the reciprocal of zero. -/
theorem pow_zero_of_num_neg {exponent : Fraction} (negative : exponent.num < 0) :
    pow 0 exponent = .error .zeroReciprocal := by
  have notZero : exponent ≠ 0 := by
    rintro rfl
    exact Int.lt_irrefl 0 negative
  have notOne : exponent ≠ 1 := by
    rintro rfl
    exact absurd negative (by decide)
  have realRoot : ¬(exponent.den % 2 = 0 ∧ (0 : Fraction).num < 0) := by simp
  rw [pow, if_neg notZero, if_neg notOne, if_neg realRoot, if_pos negative]
  rfl

/-- Zero has no power with an exponent that is not positive. -/
theorem exists_pow_zero_eq_error {exponent : Fraction} (notPositive : exponent.num ≤ 0) :
    ∃ cause, pow 0 exponent = .error cause := by
  by_cases isZero : exponent = 0
  · exact ⟨.zeroToTheZero, by simp [pow, isZero]⟩
  · have numNonzero : exponent.num ≠ 0 := mt (num_eq_zero_iff exponent).mp isZero
    exact ⟨.zeroReciprocal, pow_zero_of_num_neg (by omega)⟩

/-- What a successful power with an integer exponent answers. -/
theorem eq_some_of_pow_eq_ok
    {base exponent : Fraction}
    {answer : Option Fraction}
    (integer : exponent.den = 1)
    (success : base.pow exponent = .ok answer) :
    ∃ result,
      answer = some result ∧ result.toRat = base.toRat ^ exponent.num ∧
        (base ≠ 0 ∨ 0 < exponent.num) := by
  by_cases defined : base ≠ 0 ∨ 0 < exponent.num
  · obtain ⟨result, power, value⟩ := exists_pow_eq_ok integer defined
    rw [power] at success
    cases success
    exact ⟨result, rfl, value, defined⟩
  · rw [not_or, not_not, not_lt] at defined
    obtain ⟨cause, failure⟩ := exists_pow_zero_eq_error defined.2
    rw [defined.1, failure] at success
    cases success

/-! ## Irrational powers -/

/-- The exponent of an irrational power is no integer. -/
theorem den_ne_one_of_pow_eq_none
    {base exponent : Fraction}
    (irrational : base.pow exponent = .ok none) :
    exponent.den ≠ 1 := by
  intro integer
  obtain ⟨result, impossible, _⟩ := eq_some_of_pow_eq_ok integer irrational
  cases impossible

theorem ne_zero_of_pow_eq_none
    {base exponent : Fraction}
    (irrational : base.pow exponent = .ok none) :
    exponent ≠ 0 := by
  rintro rfl
  exact den_ne_one_of_pow_eq_none irrational rfl

theorem ne_one_of_pow_eq_none
    {base exponent : Fraction}
    (irrational : base.pow exponent = .ok none) :
    exponent ≠ 1 := by
  rintro rfl
  exact den_ne_one_of_pow_eq_none irrational rfl

/-- The reciprocal has the sign of the fraction. -/
theorem num_lt_zero_iff_of_reciprocal_eq_ok
    {fraction inverse : Fraction}
    (inverted : fraction.reciprocal = .ok inverse) :
    inverse.num < 0 ↔ fraction.num < 0 := by
  have positiveDen := fraction.den_pos
  unfold reciprocal at inverted
  split at inverted
  · cases inverted
    dsimp only
    omega
  · split at inverted
    · cases inverted
      dsimp only
      omega
    · cases inverted

/-- The inverse of an irrational power is irrational too. -/
theorem pow_opposite_of_reciprocal
    {base exponent inverse : Fraction}
    (irrational : base.pow exponent = .ok none)
    (negative : exponent.num < 0)
    (inverted : base.reciprocal = .ok inverse) :
    inverse.pow (-exponent) = .ok none := by
  have notInteger := den_ne_one_of_pow_eq_none irrational
  have nonzero := ne_zero_of_pow_eq_none irrational
  have notOne := ne_one_of_pow_eq_none irrational
  have oppositeNonzero : -exponent ≠ 0 := by
    intro isZero
    exact notInteger (congrArg den isZero)
  have oppositeNotOne : -exponent ≠ 1 := by
    intro isOne
    exact notInteger (congrArg den isOne)
  have sameSign := num_lt_zero_iff_of_reciprocal_eq_ok inverted
  rw [pow, if_neg oppositeNonzero, if_neg oppositeNotOne, den_neg, num_neg, Int.natAbs_neg]
  split
  · rfl
  · rename_i realRoot
    rw [sameSign] at realRoot
    rw [pow, if_neg nonzero, if_neg notOne, if_neg realRoot, if_pos negative, inverted]
      at irrational
    rw [if_neg (by omega)]
    exact irrational

end Fraction
end ExactAlgebra
