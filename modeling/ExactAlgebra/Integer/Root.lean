/-!
# Exact integer roots

The floor of a root is found by a descending Newton iteration that starts above
the root, and a perfect root is a floor whose power gives the radicand back.
-/

namespace ExactAlgebra
namespace Integer

/-- One Newton step towards the root of `radicand`, rounded down. -/
def newtonStep (radicand degree estimate : Nat) : Nat :=
  ((degree - 1) * estimate + radicand / Nat.pow estimate (degree - 1)) / degree

/-- Iterate Newton steps while they decrease, and return the last estimate. -/
def newtonDescent (radicand degree estimate : Nat) : Nat :=
  if newtonStep radicand degree estimate < estimate then
    newtonDescent radicand degree (newtonStep radicand degree estimate)
  else estimate
termination_by estimate

/-- Number of binary digits, zero for zero. -/
def bitLength (number : Nat) : Nat :=
  if number = 0 then 0 else Nat.log2 number + 1

/-- The first estimate, a power of two that is not below the root. -/
def rootCeiling (radicand degree : Nat) : Nat :=
  Nat.pow 2 ((bitLength radicand + degree - 1) / degree)

/-- Floor of the root of a natural number. -/
def floorRoot (radicand degree : Nat) : Nat :=
  if radicand < 2 then radicand
  else newtonDescent radicand degree (rootCeiling radicand degree)

/-- The natural number whose power is the radicand, if there is one. Zero and one
are their own roots, whatever the degree. -/
def exactRoot? (radicand degree : Nat) : Option Nat :=
  if radicand < 2 then some radicand
  else if Nat.pow (floorRoot radicand degree) degree = radicand then
    some (floorRoot radicand degree)
  else none

/-- The integer with the sign of the radicand whose magnitude is the exact root
of the radicand's magnitude. For odd degrees its power is the radicand. -/
def signedRoot? (radicand : Int) (degree : Nat) : Option Int :=
  (exactRoot? radicand.natAbs degree).map fun root =>
    if radicand < 0 then -(root : Int) else (root : Int)

/-- Why a root is not even asked for. -/
inductive RootError
  | degreeNotPositive
  | evenRootOfNegative
  deriving DecidableEq

namespace RootError

/-- The wording of a refused root. -/
def message : RootError → String
  | degreeNotPositive => "Invalid root degree"
  | evenRootOfNegative => "Even roots of negative numbers are not real"

end RootError

/-- The integer whose power is the radicand, `none` when the root is not
perfect. Degrees below one are refused, and so are even roots of negative
numbers. -/
def perfectRoot (radicand degree : Int) : Except RootError (Option Int) :=
  if degree ≤ 0 then .error .degreeNotPositive
  else if radicand < 0 ∧ degree % 2 = 0 then .error .evenRootOfNegative
  else .ok (signedRoot? radicand degree.toNat)

end Integer
end ExactAlgebra
