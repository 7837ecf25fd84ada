import ExactAlgebra.Integer.Power
import ExactAlgebra.Proofs.Integer.BinaryGcd

/-!
# Integer primitives and what they compute

Greatest common divisors, least common multiples and powers of integers are what
arithmetic defines them to be. The loops for the first and the last of them end for all
integers. The loop for powers squares the base and halves the exponent; the result so far,
multiplied by the power that is left, is the same after every turn.
-/

namespace ExactAlgebra
namespace Integer

open StateTransition

/-! ## Divisors and multiples -/

/-- The number divides both integers, and every integer that does divides the number. -/
structure IsGreatestCommonDivisor (left right : Int) (divisor : Nat) : Prop where
  dvd_left : (divisor : Int) ∣ left
  dvd_right : (divisor : Int) ∣ right
  greatest : ∀ other : Int, other ∣ left → other ∣ right → other ∣ (divisor : Int)

/-- The number is a multiple of both integers, and every integer that is one is a multiple
of the number. -/
structure IsLeastCommonMultiple (left right : Int) (multiple : Nat) : Prop where
  left_dvd : left ∣ (multiple : Int)
  right_dvd : right ∣ (multiple : Int)
  least : ∀ other : Int, left ∣ other → right ∣ other → (multiple : Int) ∣ other

theorem isGreatestCommonDivisor_gcd (left right : Int) :
    IsGreatestCommonDivisor left right (gcd left right) := by
  rw [gcd_eq_natAbs_gcd]
  exact ⟨Int.gcd_dvd_left _ _, Int.gcd_dvd_right _ _, fun _ => Int.dvd_coe_gcd⟩

theorem isLeastCommonMultiple_lcm (left right : Int) :
    IsLeastCommonMultiple left right (lcm left right) := by
  rw [lcm_eq_natAbs_lcm]
  exact ⟨Int.dvd_lcm_left _ _, Int.dvd_lcm_right _ _, fun _ => Int.coe_lcm_dvd⟩

/-! ## Powers -/

/-- What the loop for powers keeps: the result so far, and the power that is left to
multiply with it. -/
structure PowerState where
  result : Int
  base : Int
  exponent : Nat

namespace PowerState

/-- One turn of the loop: the lowest bit of the exponent is shifted out, and the base goes
into the result if the bit is set. -/
def next? (state : PowerState) : Option PowerState :=
  if state.exponent = 0 then none
  else
    some
      { result :=
          if state.exponent &&& 1 = 0 then state.result else state.result * state.base
        base := state.base * state.base
        exponent := state.exponent >>> 1 }

/-- What the result will be multiplied up to. -/
def target (state : PowerState) : Int :=
  state.result * state.base ^ state.exponent

variable {state next : PowerState}

theorem next?_eq_some_iff :
    state.next? = some next ↔
      state.exponent ≠ 0 ∧
        next.result =
          (if state.exponent % 2 = 0 then state.result else state.result * state.base) ∧
        next.base = state.base * state.base ∧ next.exponent = state.exponent / 2 := by
  obtain ⟨result, base, exponent⟩ := next
  rw [next?, Nat.and_one_is_mod, Nat.shiftRight_eq_div_pow, Nat.pow_one]
  split
  · rename_i zero
    simp [zero]
  · rename_i nonzero
    simp [nonzero, eq_comm]

theorem next?_eq_none_iff : state.next? = none ↔ state.exponent = 0 := by
  rw [next?]
  split
  · rename_i zero
    exact iff_of_true rfl zero
  · rename_i nonzero
    exact iff_of_false (Option.some_ne_none _) nonzero

/-- A turn lowers the exponent. -/
theorem exponent_lt_of_next? (turn : state.next? = some next) :
    next.exponent < state.exponent := by
  obtain ⟨nonzero, -, -, exponent⟩ := next?_eq_some_iff.mp turn
  omega

/-- A turn keeps the product that the loop works towards. -/
theorem target_of_next? (turn : state.next? = some next) : next.target = state.target := by
  obtain ⟨-, result, base, exponent⟩ := next?_eq_some_iff.mp turn
  have bits : state.exponent = 2 * (state.exponent / 2) + state.exponent % 2 :=
    (Nat.div_add_mod _ 2).symm
  have squared : next.base ^ next.exponent = state.base ^ (2 * (state.exponent / 2)) := by
    rw [base, exponent, pow_mul, pow_two]
  rw [target, target, squared, result]
  rcases Nat.mod_two_eq_zero_or_one state.exponent with even | odd
  · rw [if_pos even]
    conv_rhs => rw [bits, even, Nat.add_zero]
  · rw [if_neg (by omega)]
    conv_rhs => rw [bits, odd, pow_succ']
    exact mul_assoc _ _ _

/-- When the loop ends, nothing is left to multiply. -/
theorem result_eq_target (last : state.next? = none) : state.result = state.target := by
  rw [target, next?_eq_none_iff.mp last, pow_zero, mul_one]

end PowerState

/-- Power of an integer as the loop finds it, if the loop ends. -/
def powerLoop (base : Int) (exponent : Nat) : Part Int :=
  (eval PowerState.next? { result := 1, base := base, exponent := exponent }).map
    PowerState.result

/-- The loop ends for every base and exponent, with the power. -/
theorem powerLoop_eq (base : Int) (exponent : Nat) :
    powerLoop base exponent = Part.some (base ^ exponent) := by
  obtain ⟨last, ends⟩ := exists_mem_eval PowerState.exponent PowerState.exponent_lt_of_next?
    { result := 1, base := base, exponent := exponent }
  obtain ⟨reaches, stops⟩ := mem_eval.mp ends
  rw [powerLoop, Part.eq_some_iff.mpr ends, Part.map_some, PowerState.result_eq_target stops,
    eq_of_reaches PowerState.target_of_next? reaches, PowerState.target, one_mul]

theorem power?_natCast (base : Int) (exponent : Nat) :
    power? base exponent = some (base ^ exponent) := by
  rw [power?, if_neg (not_lt.mpr (Int.natCast_nonneg exponent)), Int.toNat_natCast, power_eq_pow]
  rfl

/-! ## The primitives -/

/-- The primitives are exact for all integers. The binary loop ends with the number that
`gcd` computes. This is the greatest common divisor; it is not negative, and beside zero it
is the magnitude of the other integer. The least common multiple is one and is not negative.
The loop that squares and multiplies ends with the power, and an exponent that is not
negative is never refused. -/
theorem primitives_exact (left right base : Int) (exponent : Nat) :
    gcdLoop left right = Part.some (gcd left right) ∧
      IsGreatestCommonDivisor left right (gcd left right) ∧
      gcd 0 right = right.natAbs ∧
      IsLeastCommonMultiple left right (lcm left right) ∧
      powerLoop base exponent = Part.some (base ^ exponent) ∧
      power? base exponent = some (base ^ exponent) := by
  refine ⟨gcdLoop_eq left right, isGreatestCommonDivisor_gcd left right, ?_,
    isLeastCommonMultiple_lcm left right, powerLoop_eq base exponent, power?_natCast base exponent⟩
  rw [gcd_eq_natAbs_gcd, Int.natAbs_zero, Nat.gcd_zero_left]

end Integer
end ExactAlgebra
