import ExactAlgebra.Expr.Build
import ExactAlgebra.Rewrite.Error

/-!
# Expansion

Expanding distributes products over sums and unrolls powers into products. The
result is not simplified: coefficients and repeated factors stay as they come.
-/

namespace ExactAlgebra
namespace Expand

open ExactAlgebra.Expr

/-- Multiply two expressions, every term of the left one with every term of the
right one. -/
def distribute (left right : Expr) : Expr :=
  sumOfTerms (left.summands.flatMap fun leftTerm =>
    right.summands.map fun rightTerm => productOf [leftTerm, rightTerm])

/-- Multiply expressions from left to right. -/
def distributeAll : List Expr → Expr
  | [] => 1
  | first :: others => others.foldl distribute first

/-- All ways to choose an element `count` times in a row, the last choice varying
fastest. -/
def selections (choices : List α) : Nat → List (List α)
  | 0 => [[]]
  | count + 1 =>
      choices.flatMap fun choice => (selections choices count).map (choice :: ·)

/-- The product of `count` copies of an expression. A sum gives one term for each
choice of a term in every copy. -/
def repeated (count : Nat) : Expr → Expr
  | sum operands => sumOfTerms ((selections operands count).map productOfFactors)
  | base => productOfFactors (List.replicate count base)

/-- The exponent that remains when the numerator is unrolled: the sign over the
denominator. -/
def rootExponent (exponent : Fraction) : Fraction :=
  .reduce exponent.sign exponent.den exponent.den_pos

/-- Unroll the numerator of an exponent other than zero and one. -/
def unroll (base : Expr) (exponent : Fraction) : Expr :=
  let unrolled := repeated exponent.num.natAbs base
  if exponent.isInteger ∧ 0 < exponent.num then unrolled
  else power unrolled (rootExponent exponent)

end Expand

namespace Expr

mutual
/-- Distribute products over sums and unroll powers. -/
def expand : Expr → Except RewriteError Expr
  | number value => .ok (number value)
  | symbol name => .ok (symbol name)
  | sum operands => do
      let expanded ← expandAll operands
      return sumOf (expanded.flatMap summands)
  | product operands => do
      let expanded ← expandAll operands
      return Expand.distributeAll expanded
  | power base exponent =>
      if exponent = 0 then do
        checkZeroExponent base
        return 1
      else do
        let expanded ← expand base
        return if exponent = 1 then expanded else Expand.unroll expanded exponent
/-- Expand every expression of a list; the first failure counts. -/
def expandAll : List Expr → Except RewriteError (List Expr)
  | [] => .ok []
  | operand :: operands => do
      let first ← expand operand
      let others ← expandAll operands
      return first :: others
end

end Expr
end ExactAlgebra
