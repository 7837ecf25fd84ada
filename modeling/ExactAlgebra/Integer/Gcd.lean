/-!
# Binary greatest common divisor

The greatest common divisor is computed by halving and subtracting alone, so
that no step divides by anything but two. It agrees with the library's
Euclidean algorithm, which is what makes every fraction built on it reduced.
-/

namespace ExactAlgebra
namespace Integer

/-- Greatest common divisor of two natural numbers by halving and subtracting:
a common factor two is set aside, a lone factor two is dropped, and of two odd
numbers the smaller is subtracted from the larger. -/
def binaryGcd (left right : Nat) : Nat :=
  if left = 0 then right
  else if right = 0 then left
  else if left % 2 = 0 then
    if right % 2 = 0 then 2 * binaryGcd (left / 2) (right / 2)
    else binaryGcd (left / 2) right
  else if right % 2 = 0 then binaryGcd left (right / 2)
  else if left ≤ right then binaryGcd left ((right - left) / 2)
  else binaryGcd ((left - right) / 2) right
termination_by left + right
decreasing_by all_goals omega

/-- An odd number shares with `2 * other` only what it shares with `other`. -/
theorem gcd_two_mul_of_odd
    {number : Nat}
    (odd : number % 2 = 1)
    (other : Nat) :
    Nat.gcd number (2 * other) = Nat.gcd number other := by
  apply Nat.Coprime.gcd_mul_left_cancel_right
  rw [Nat.Coprime, Nat.gcd_rec, odd]
  rfl

/-- Halving the even difference of two odd numbers keeps what they share. -/
theorem gcd_half_sub
    {smaller larger : Nat}
    (smallerOdd : smaller % 2 = 1)
    (largerOdd : larger % 2 = 1)
    (le : smaller ≤ larger) :
    Nat.gcd smaller ((larger - smaller) / 2) = Nat.gcd smaller larger := by
  rw [← gcd_two_mul_of_odd smallerOdd ((larger - smaller) / 2)]
  have doubled : 2 * ((larger - smaller) / 2) = larger - smaller := by omega
  rw [doubled]
  exact Nat.gcd_sub_self_right le

/-- The binary algorithm computes the greatest common divisor. -/
theorem binaryGcd_eq_gcd (left right : Nat) :
    binaryGcd left right = Nat.gcd left right := by
  fun_induction binaryGcd left right with
  | case1 right => simp
  | case2 left leftNonzero => simp
  | case3 left right leftNonzero rightNonzero leftEven rightEven hypothesis =>
      rw [hypothesis, ← Nat.gcd_mul_left]
      congr 1 <;> omega
  | case4 left right leftNonzero rightNonzero leftEven rightOdd hypothesis =>
      rw [hypothesis, Nat.gcd_comm, ← gcd_two_mul_of_odd (by omega), Nat.gcd_comm]
      congr 1
      omega
  | case5 left right leftNonzero rightNonzero leftOdd rightEven hypothesis =>
      rw [hypothesis, ← gcd_two_mul_of_odd (by omega)]
      congr 1
      omega
  | case6 left right leftNonzero rightNonzero leftOdd rightOdd le hypothesis =>
      rw [hypothesis, gcd_half_sub (by omega) (by omega) le]
  | case7 left right leftNonzero rightNonzero leftOdd rightOdd notLe hypothesis =>
      rw [hypothesis, Nat.gcd_comm, gcd_half_sub (by omega) (by omega) (by omega),
        Nat.gcd_comm]

/-- Greatest common divisor of two integers, never negative. -/
def gcd (left right : Int) : Nat :=
  binaryGcd left.natAbs right.natAbs

theorem gcd_eq_natAbs_gcd (left right : Int) :
    gcd left right = Nat.gcd left.natAbs right.natAbs :=
  binaryGcd_eq_gcd _ _

/-- Least common multiple of two integers, never negative, and zero when either
of them is. -/
def lcm (left right : Int) : Nat :=
  left.natAbs * right.natAbs / gcd left right

theorem lcm_eq_natAbs_lcm (left right : Int) :
    lcm left right = Nat.lcm left.natAbs right.natAbs := by
  rw [lcm, gcd_eq_natAbs_gcd]
  rfl

end Integer
end ExactAlgebra
