import ExactAlgebra.Integer.Gcd
import ExactAlgebra.Integer.Root
import ExactAlgebra.Proofs.EndingLoop
import Mathlib.Algebra.Order.Group.Nat
import Mathlib.Data.Int.Bitwise
import Mathlib.Data.Nat.Factorization.Basic
import Mathlib.Tactic.Ring

/-!
# The binary loop for the greatest common divisor

The greatest common divisor is found without a division. The factors two of both numbers
are shifted out at once, told from the lowest bit that is set, and the loop works on what
remains. It subtracts the smaller of two odd numbers from the larger and shifts the
factors two out of the difference. The numbers stay odd and keep their greatest common
divisor, and their sum gets smaller, so the loop ends. What it ends with is the greatest
common divisor of the odd parts, and the factors two that both numbers had are shifted
back in.
-/

namespace ExactAlgebra
namespace Integer

open StateTransition

/-! ## Trailing zeros -/

/-- Number of zero bits below the lowest bit that is set. This bit is the only one that a
positive number and its negative have in common. -/
def trailingZeros (number : Nat) : Nat :=
  bitLength (Int.land number (-number)).toNat - 1

/-- What remains when all factors two are shifted out. -/
def oddPart (number : Nat) : Nat :=
  number >>> trailingZeros number

/-- Counting down clears the lowest bit that is set and sets those below it, so it is the
only bit that gets lost. -/
theorem ldiff_pred (zeros higher : Nat) :
    Nat.ldiff (2 ^ (zeros + 1) * higher + 2 ^ zeros) (2 ^ (zeros + 1) * higher + 2 ^ zeros - 1) =
      2 ^ zeros := by
  have positive : 0 < 2 ^ zeros := Nat.two_pow_pos zeros
  have bound : 2 ^ zeros < 2 ^ (zeros + 1) := Nat.pow_lt_pow_succ Nat.one_lt_two
  have pred : 2 ^ (zeros + 1) * higher + 2 ^ zeros - 1 =
      2 ^ (zeros + 1) * higher + (2 ^ zeros - 1) := by omega
  refine Nat.eq_of_testBit_eq fun place => ?_
  rw [Nat.testBit_ldiff, pred, Nat.testBit_two_pow_mul_add _ bound,
    Nat.testBit_two_pow_mul_add _ (by omega)]
  split
  · rw [Nat.testBit_two_pow, Nat.testBit_two_pow_sub_one]
    by_cases atBit : zeros = place <;> simp [atBit]
  · rw [Bool.and_not_self, Nat.testBit_two_pow_of_ne (by omega)]

/-- The zeros of an odd multiple of a power of two are those of the power. -/
theorem trailingZeros_two_pow_mul {odd : Nat} (isOdd : Odd odd) (zeros : Nat) :
    trailingZeros (2 ^ zeros * odd) = zeros := by
  obtain ⟨higher, rfl⟩ := isOdd
  have sum : 2 ^ zeros * (2 * higher + 1) = 2 ^ (zeros + 1) * higher + 2 ^ zeros := by ring
  obtain ⟨pred, successor⟩ : ∃ pred, 2 ^ (zeros + 1) * higher + 2 ^ zeros = pred + 1 :=
    Nat.exists_eq_add_one.mpr (Nat.add_pos_right _ (Nat.two_pow_pos zeros))
  have lowestBit := ldiff_pred zeros higher
  rw [successor, Nat.add_sub_cancel] at lowestBit
  rw [sum, successor, trailingZeros]
  change bitLength (Nat.ldiff (pred + 1) pred) - 1 = zeros
  rw [lowestBit, bitLength, if_neg (Nat.two_pow_pos zeros).ne', Nat.log2_two_pow,
    Nat.add_sub_cancel]

theorem oddPart_two_pow_mul {odd : Nat} (isOdd : Odd odd) (zeros : Nat) :
    oddPart (2 ^ zeros * odd) = odd := by
  rw [oddPart, trailingZeros_two_pow_mul isOdd, Nat.shiftRight_eq_div_pow,
    Nat.mul_div_cancel_left _ (Nat.two_pow_pos zeros)]

variable {number : Nat}

theorem odd_oddPart (nonzero : number ≠ 0) : Odd (oddPart number) := by
  obtain ⟨zeros, odd, isOdd, rfl⟩ := Nat.exists_eq_two_pow_mul_odd nonzero
  rwa [oddPart_two_pow_mul isOdd]

/-- A number is its odd part with the factors two shifted back in. -/
theorem two_pow_mul_oddPart (nonzero : number ≠ 0) :
    2 ^ trailingZeros number * oddPart number = number := by
  obtain ⟨zeros, odd, isOdd, rfl⟩ := Nat.exists_eq_two_pow_mul_odd nonzero
  rw [trailingZeros_two_pow_mul isOdd, oddPart_two_pow_mul isOdd]

theorem oddPart_le (number : Nat) : oddPart number ≤ number :=
  Nat.shiftRight_le _ _

/-- An odd number shares with another number what it shares with its odd part. -/
theorem gcd_oddPart {odd : Nat} (isOdd : Odd odd) (nonzero : number ≠ 0) :
    Nat.gcd odd (oddPart number) = Nat.gcd odd number := by
  conv_rhs => rw [← two_pow_mul_oddPart nonzero]
  exact (Nat.Coprime.gcd_mul_left_cancel_right _ (isOdd.coprime_two_left.pow_left _)).symm

/-- Of the factors two, a number shares with another as many as the one with fewer has. -/
theorem gcd_eq_shiftLeft_gcd_oddPart
    {left right : Nat}
    (leftNonzero : left ≠ 0)
    (rightNonzero : right ≠ 0) :
    Nat.gcd left right =
      Nat.gcd (oddPart left) (oddPart right) <<<
        min (trailingZeros left) (trailingZeros right) := by
  -- The number with fewer zeros keeps its odd part, the other one some factors two.
  have fewer {first second : Nat}
      (firstNonzero : first ≠ 0)
      (secondNonzero : second ≠ 0)
      (le : trailingZeros first ≤ trailingZeros second) :
      Nat.gcd first second =
        2 ^ trailingZeros first * Nat.gcd (oddPart first) (oddPart second) := by
    obtain ⟨rest, more⟩ := Nat.exists_eq_add_of_le le
    have isOdd : Odd (oddPart first) := odd_oddPart firstNonzero
    conv_lhs =>
      rw [← two_pow_mul_oddPart firstNonzero, ← two_pow_mul_oddPart secondNonzero, more, pow_add,
        Nat.mul_assoc, Nat.gcd_mul_left]
    rw [Nat.Coprime.gcd_mul_left_cancel_right _ (isOdd.coprime_two_left.pow_left _)]
  rw [Nat.shiftLeft_eq, Nat.mul_comm]
  rcases Nat.le_total (trailingZeros left) (trailingZeros right) with le | le
  · rw [Nat.min_eq_left le, fewer leftNonzero rightNonzero le]
  · rw [Nat.min_eq_right le, Nat.gcd_comm, fewer rightNonzero leftNonzero le,
      Nat.gcd_comm (oddPart right)]

/-! ## The loop -/

/-- The two numbers that the loop works on. -/
structure OddPair where
  left : Nat
  right : Nat
  leftOdd : Odd left
  rightOdd : Odd right

namespace OddPair

/-- The smaller number, which the loop swaps to the front. -/
def smaller (pair : OddPair) : Nat :=
  min pair.left pair.right

/-- What is left of the larger number when the smaller is subtracted. -/
def difference (pair : OddPair) : Nat :=
  max pair.left pair.right - pair.smaller

theorem smaller_odd (pair : OddPair) : Odd pair.smaller := by
  rw [smaller]
  rcases Nat.le_total pair.left pair.right with le | le
  · rw [Nat.min_eq_left le]
    exact pair.leftOdd
  · rw [Nat.min_eq_right le]
    exact pair.rightOdd

/-- The odd parts of two numbers. -/
def ofNonzero
    (left right : Nat)
    (leftNonzero : left ≠ 0)
    (rightNonzero : right ≠ 0) : OddPair where
  left := oddPart left
  right := oddPart right
  leftOdd := odd_oddPart leftNonzero
  rightOdd := odd_oddPart rightNonzero

/-- One turn of the loop: the odd part of the difference takes the place of the larger
number. There is no next pair when nothing is left of it. -/
def next? (pair : OddPair) : Option OddPair :=
  if equal : pair.difference = 0 then none
  else
    some
      { left := pair.smaller
        right := oddPart pair.difference
        leftOdd := pair.smaller_odd
        rightOdd := odd_oddPart equal }

/-- Greatest common divisor of the two numbers. -/
def commonDivisor (pair : OddPair) : Nat :=
  Nat.gcd pair.left pair.right

variable {pair next : OddPair}

theorem next?_eq_some_iff :
    pair.next? = some next ↔
      pair.difference ≠ 0 ∧ next.left = pair.smaller ∧ next.right = oddPart pair.difference := by
  obtain ⟨left, right, leftOdd, rightOdd⟩ := next
  rw [next?]
  split
  · rename_i equal
    simp [equal]
  · rename_i different
    simp [different, eq_comm]

theorem next?_eq_none_iff : pair.next? = none ↔ pair.difference = 0 := by
  rw [next?]
  split
  · rename_i equal
    exact iff_of_true rfl equal
  · rename_i different
    exact iff_of_false (Option.some_ne_none _) different

/-- A turn lowers the sum of the two numbers. -/
theorem add_lt_of_next? (turn : pair.next? = some next) :
    next.left + next.right < pair.left + pair.right := by
  obtain ⟨-, left, right⟩ := next?_eq_some_iff.mp turn
  have positive : 0 < pair.smaller := pair.smaller_odd.pos
  have bound : oddPart pair.difference ≤ pair.difference := oddPart_le _
  rw [left, right]
  unfold difference smaller at *
  omega

/-- A turn keeps what the two numbers share. -/
theorem commonDivisor_of_next? (turn : pair.next? = some next) :
    next.commonDivisor = pair.commonDivisor := by
  obtain ⟨different, left, right⟩ := next?_eq_some_iff.mp turn
  rw [commonDivisor, left, right, gcd_oddPart pair.smaller_odd different, difference, smaller,
    Nat.gcd_sub_self_right min_le_max, Nat.gcd_comm]
  rcases Nat.le_total pair.left pair.right with le | le
  · rw [Nat.min_eq_left le, Nat.max_eq_right le, Nat.gcd_comm, commonDivisor]
  · rw [Nat.min_eq_right le, Nat.max_eq_left le, commonDivisor]

/-- The loop ends with two equal numbers, and each of them is all that they share. -/
theorem smaller_eq_commonDivisor (last : pair.next? = none) :
    pair.smaller = pair.commonDivisor := by
  have equal : pair.difference = 0 := next?_eq_none_iff.mp last
  have same : pair.left = pair.right := by
    unfold difference smaller at equal
    omega
  rw [smaller, commonDivisor, same, Nat.min_self, Nat.gcd_self]

end OddPair

/-- The loop ends for every pair of odd numbers, with what they share. -/
theorem exists_mem_eval_oddPair (pair : OddPair) :
    ∃ last ∈ eval OddPair.next? pair, last.smaller = Nat.gcd pair.left pair.right := by
  obtain ⟨last, ends⟩ := exists_mem_eval
    (fun pair : OddPair => pair.left + pair.right) OddPair.add_lt_of_next? pair
  obtain ⟨reaches, stops⟩ := mem_eval.mp ends
  refine ⟨last, ends, ?_⟩
  rw [OddPair.smaller_eq_commonDivisor stops, eq_of_reaches OddPair.commonDivisor_of_next? reaches]
  rfl

/-- Greatest common divisor of two integers as the loop finds it, if the loop ends. -/
def gcdLoop (left right : Int) : Part Nat :=
  if leftZero : left.natAbs = 0 then Part.some right.natAbs
  else if rightZero : right.natAbs = 0 then Part.some left.natAbs
  else
    (eval OddPair.next? (.ofNonzero left.natAbs right.natAbs leftZero rightZero)).map fun last =>
      last.smaller <<< min (trailingZeros left.natAbs) (trailingZeros right.natAbs)

/-- The loop ends for all integers, with the number that halving and subtracting gives. -/
theorem gcdLoop_eq (left right : Int) : gcdLoop left right = Part.some (gcd left right) := by
  rw [gcd_eq_natAbs_gcd, gcdLoop]
  split
  · rename_i leftZero
    rw [leftZero, Nat.gcd_zero_left]
  · rename_i leftNonzero
    split
    · rename_i rightZero
      rw [rightZero, Nat.gcd_zero_right]
    · rename_i rightNonzero
      obtain ⟨last, ends, common⟩ :=
        exists_mem_eval_oddPair (.ofNonzero _ _ leftNonzero rightNonzero)
      rw [Part.eq_some_iff.mpr ends, Part.map_some, common,
        gcd_eq_shiftLeft_gcd_oddPart leftNonzero rightNonzero]
      rfl

end Integer
end ExactAlgebra
