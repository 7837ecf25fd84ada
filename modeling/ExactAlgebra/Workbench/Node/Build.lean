import ExactAlgebra.Workbench.Fault

/-!
# Building nodes

Sums and products of nodes have their operands in the canonical order of their
expressions. Operands with equal expressions stay in the order in which they were
given, so that what they show of their fractions is not mixed up.
-/

namespace ExactAlgebra
namespace Workbench
namespace Node

/-- The constant of a fraction. -/
def constant (value : Fraction) : Node := number (.plain value)

/-- The constant minus one. -/
def minusOne : Node := constant (-1)

/-- The node is the constant with the given value. -/
def isLiteral (value : Fraction) : Node → Bool
  | number given => given.value = value
  | _ => false

/-- The node is a constant. -/
def isNumber : Node → Bool
  | number _ => true
  | _ => false

/-- Nodes together with their expressions. -/
def keyed (nodes : List Node) : List (Expr × Node) :=
  nodes.map fun node => (node.expr, node)

/-- The nodes in canonical order. -/
def arrange (nodes : List Node) : List Node :=
  (Sorting.sort (fun left right => Expr.le left.1 right.1) (keyed nodes)).map Prod.snd

/-- The sum of the operands, in canonical order. -/
def sumOf (operands : List Node) : Node :=
  sum (arrange operands)

/-- The product of the operands, in canonical order. -/
def productOf (operands : List Node) : Node :=
  product (arrange operands)

/-- The sum of any number of terms: zero for none, and a lone term stands for
itself. -/
def sumOfTerms : List Node → Node
  | [] => constant 0
  | [term] => term
  | terms => sumOf terms

/-- The product of any number of factors: one for none, and a lone factor stands
for itself. -/
def productOfFactors : List Node → Node
  | [] => constant 1
  | [factor] => factor
  | factors => productOf factors

/-- The terms of a sum; any other node is one term. -/
def summands : Node → List Node
  | sum operands => operands
  | node => [node]

/-- The factors of a product; any other node is one factor. -/
def factors : Node → List Node
  | product operands => operands
  | node => [node]

/-- The exponent zero is allowed on a base without variables that is not the
literal zero. -/
def checkZeroExponent (base : Node) : Outcome Unit :=
  if base.isLiteral 0 then .error (.rewrite .zeroToTheZero)
  else if base.expr.containsSymbols then .error (.indeterminate base)
  else .ok ()

end Node
end Workbench
end ExactAlgebra
