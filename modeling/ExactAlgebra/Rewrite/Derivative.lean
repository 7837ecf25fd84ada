import ExactAlgebra.Expr.Build

/-!
# Derivatives

The derivative of an expression with respect to one variable, by the rules for
sums, products and powers. It is always defined, and it is not simplified beyond
leaving out terms that are literally zero.
-/

namespace ExactAlgebra
namespace Derivative

open ExactAlgebra.Expr

/-- Every element of a list together with all the others. -/
def picks : List α → List (α × List α)
  | [] => []
  | first :: others =>
      (first, others) :: (picks others).map fun (picked, rest) => (picked, first :: rest)

/-- The product rule for operands paired with their derivatives. Operands with
derivative zero are constant factors of every term. -/
def productRule (pairs : List (Expr × Expr)) : Expr :=
  let constants := (pairs.filter fun pair => pair.2 = 0).map Prod.fst
  match pairs.filter fun pair => pair.2 ≠ 0 with
  | [] => 0
  | [(_, derivative)] => productOf (constants ++ [derivative])
  | varying =>
      sumOf ((picks varying).map fun (picked, others) =>
        productOf (others.map Prod.fst ++ picked.2 :: constants))

/-- The rule for an exponent other than zero and one, given the derivative of the
base. -/
def powerRule (base : Expr) (exponent : Fraction) (inner : Expr) : Expr :=
  if inner = 0 then 0
  else if inner = 1 then productOf [number exponent, power base (exponent - 1)]
  else productOf [number exponent, power base (exponent - 1), inner]

end Derivative

namespace Expr

mutual
/-- The derivative with respect to a variable. -/
def derivative (target : Symbol) : Expr → Expr
  | number _ => 0
  | symbol name => if name = target then 1 else 0
  | sum operands => sumOfTerms ((derivatives target operands).filter (· ≠ 0))
  | product operands => Derivative.productRule (operands.zip (derivatives target operands))
  | power base exponent =>
      if exponent = 0 then 0
      else if exponent = 1 then derivative target base
      else Derivative.powerRule base exponent (derivative target base)
/-- The derivatives of a list of expressions. -/
def derivatives (target : Symbol) : List Expr → List Expr
  | [] => []
  | operand :: operands => derivative target operand :: derivatives target operands
end

end Expr
end ExactAlgebra
