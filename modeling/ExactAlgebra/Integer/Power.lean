/-!
# Integer powers

Powers are computed by squaring the base and halving the exponent. A negative
exponent has no integer answer and is refused.
-/

namespace ExactAlgebra
namespace Integer

/-- The base multiplied by itself `exponent` times, by repeated squaring. The
empty product is one, also for the base zero. -/
def power (base : Int) (exponent : Nat) : Int :=
  if exponent = 0 then 1
  else if exponent % 2 = 1 then base * power (base * base) (exponent / 2)
  else power (base * base) (exponent / 2)
termination_by exponent
decreasing_by all_goals omega

/-- Repeated squaring computes the power. -/
theorem power_eq_pow (base : Int) (exponent : Nat) :
    power base exponent = Int.pow base exponent := by
  change power base exponent = base ^ exponent
  fun_induction power base exponent with
  | case1 base => simp
  | case2 base exponent nonzero odd hypothesis =>
      have split : exponent = 2 * (exponent / 2) + 1 := by omega
      rw [hypothesis]
      conv => rhs; rw [split, Int.pow_succ, Int.pow_mul]
      rw [Int.mul_comm, Int.pow_succ, Int.pow_succ, Int.pow_zero, Int.one_mul]
  | case3 base exponent nonzero even hypothesis =>
      have split : exponent = 2 * (exponent / 2) := by omega
      rw [hypothesis]
      conv => rhs; rw [split, Int.pow_mul]
      rw [Int.pow_succ, Int.pow_succ, Int.pow_zero, Int.one_mul]

/-- A power with an integer exponent, or `none` when the exponent is negative. -/
def power? (base exponent : Int) : Option Int :=
  if exponent < 0 then none else some (power base exponent.toNat)

end Integer
end ExactAlgebra
