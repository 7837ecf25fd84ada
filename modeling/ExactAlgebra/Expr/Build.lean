import ExactAlgebra.Expr.Order

/-!
# Building expressions

Sums and products are built with their operands in canonical order. Differences
and quotients have no kind of their own: subtracting is adding a product with
minus one, and dividing is multiplying by a power with exponent minus one.
-/

namespace ExactAlgebra
namespace Expr

/-- The sum of the operands, in canonical order. -/
def sumOf (operands : List Expr) : Expr :=
  sum (arrange operands)

/-- The product of the operands, in canonical order. -/
def productOf (operands : List Expr) : Expr :=
  product (arrange operands)

/-- The first expression minus all others. -/
def difference (first : Expr) (others : List Expr) : Expr :=
  sumOf (first :: others.map fun other => productOf [minusOne, other])

/-- The first expression divided by all others. -/
def quotient (first : Expr) (others : List Expr) : Expr :=
  productOf (first :: others.map fun other => power other (-1))

/-- The sum of any number of terms: zero for none, and a lone term stands for
itself. -/
def sumOfTerms : List Expr → Expr
  | [] => 0
  | [term] => term
  | terms => sumOf terms

/-- The product of any number of factors: one for none, and a lone factor stands
for itself. -/
def productOfFactors : List Expr → Expr
  | [] => 1
  | [factor] => factor
  | factors => productOf factors

end Expr
end ExactAlgebra
