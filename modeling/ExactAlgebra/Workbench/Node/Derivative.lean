import ExactAlgebra.Rewrite.Derivative
import ExactAlgebra.Workbench.Node.Build

/-!
# Derivatives of nodes

A derivative keeps the constant factors of a product, and all the factors that are
not differentiated, as they were given. The coefficients it adds are the exponents
of powers.
-/

namespace ExactAlgebra
namespace Workbench
namespace Node

/-- The product rule for operands paired with their derivatives. Operands with
derivative zero are constant factors of every term. -/
def productRule (pairs : List (Node × Node)) : Node :=
  let constants := (pairs.filter fun pair => pair.2.isLiteral 0).map Prod.fst
  match pairs.filter fun pair => !pair.2.isLiteral 0 with
  | [] => constant 0
  | [(_, derivative)] => productOf (constants ++ [derivative])
  | varying =>
      sumOf ((Derivative.picks varying).map fun (picked, others) =>
        productOf (others.map Prod.fst ++ picked.2 :: constants))

/-- The rule for an exponent other than zero and one, given the derivative of the
base. -/
def powerRule (base : Node) (exponent : Numeral) (inner : Node) : Node :=
  let lowered := power base (.plain (exponent.value - 1))
  if inner.isLiteral 0 then constant 0
  else if inner.isLiteral 1 then productOf [number exponent, lowered]
  else productOf [number exponent, lowered, inner]

mutual
/-- The derivative with respect to a variable. -/
def derivative (target : Symbol) : Node → Node
  | number _ => constant 0
  | symbol name => if name = target then constant 1 else constant 0
  | sum operands => sumOfTerms ((derivatives target operands).filter (!·.isLiteral 0))
  | product operands => productRule (operands.zip (derivatives target operands))
  | power base exponent =>
      if exponent.value = 0 then constant 0
      else if exponent.value = 1 then derivative target base
      else powerRule base exponent (derivative target base)
/-- The derivatives of a list of nodes. -/
def derivatives (target : Symbol) : List Node → List Node
  | [] => []
  | operand :: operands => derivative target operand :: derivatives target operands
end

end Node
end Workbench
end ExactAlgebra
