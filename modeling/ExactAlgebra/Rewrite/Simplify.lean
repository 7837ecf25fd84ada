import ExactAlgebra.Expr.Build
import ExactAlgebra.Fraction.Power
import ExactAlgebra.Rewrite.Error
import ExactAlgebra.Rewrite.Tally

/-!
# Simplification

Simplifying folds constants, adds the coefficients of equal terms, adds the
exponents of equal bases, evaluates powers of constants that are rational, and
multiplies the exponents of nested powers.

The rules are written as one step that simplifies parts through a function given
to it. Parts are not always subtrees: collecting equal bases makes powers that
are simplified in turn. All parts are lighter than the whole, so iterating the
step as often as the weight of the expression demands leaves no part untouched.
-/

namespace ExactAlgebra
namespace Expr

mutual
/-- Number of nodes that are not constants. -/
def weight : Expr → Nat
  | number _ => 0
  | symbol _ => 1
  | sum operands => weightAll operands + 1
  | product operands => weightAll operands + 1
  | power base _ => weight base + 1
/-- Total weight of a list of expressions. -/
def weightAll : List Expr → Nat
  | [] => 0
  | operand :: operands => weight operand + weightAll operands
end

end Expr

namespace Simplify

open ExactAlgebra.Expr

/-- The total of the constants among the operands of a sum. -/
def constantTerm (operands : List Expr) : Fraction :=
  (operands.filterMap value?).foldl (· + ·) 0

/-- The product of the constants among the operands of a product. -/
def constantFactor (operands : List Expr) : Fraction :=
  (operands.filterMap value?).foldl (· * ·) 1

/-- A term apart from its coefficient, and the coefficient. A product in
canonical order has its constant in front. -/
def splitTerm : Expr → Expr × Fraction
  | product (number coefficient :: rest) => (productOfFactors rest, coefficient)
  | term => (term, 1)

/-- A factor as a base and an exponent. -/
def splitFactor : Expr → Expr × Fraction
  | power base exponent => (base, exponent)
  | factor => (factor, 1)

/-- A term with a coefficient, which joins the factors of a product. -/
def scale (coefficient : Fraction) : Expr → Expr
  | product operands => productOf (operands ++ [number coefficient])
  | term => productOf [number coefficient, term]

/-- The term that a tallied coefficient leaves, if any. -/
def collectedTerm? (entry : Expr × Fraction) : Option Expr :=
  if entry.2 = 0 then none
  else if entry.2 = 1 then some entry.1
  else some (scale entry.2 entry.1)

/-- The tally of the coefficients of the terms that are not constants. -/
def termTally (operands : List Expr) : Tally Expr :=
  .ofEntries ((operands.filter (!·.isNumber)).map splitTerm)

/-- The tally of the exponents of the factors that are not constants. -/
def factorTally (operands : List Expr) : Tally Expr :=
  .ofEntries ((operands.filter (!·.isNumber)).map splitFactor)

/-- Add up simplified terms. -/
def collectSum (operands : List Expr) : Expr :=
  let constant := constantTerm operands
  let terms := (termTally operands).filterMap collectedTerm?
  sumOfTerms (if constant = 0 then terms else number constant :: terms)

/-- The factors that a tallied exponent leaves: none for the exponent zero, the
base itself for the exponent one, and a simplified power otherwise. -/
def collectedFactor
    (simplifyPart : Expr → Except RewriteError Expr)
    (entry : Expr × Fraction) : Except RewriteError (List Expr) :=
  if entry.2 = 0 then
    if entry.1 = 0 then .error .zeroToTheZero else .ok []
  else if entry.2 = 1 then .ok [entry.1]
  else do
    let factor ← simplifyPart (power entry.1 entry.2)
    return [factor]

/-- A product of factors and a coefficient. -/
def assembleProduct (coefficient : Fraction) (operands : List Expr) : Expr :=
  if coefficient = 0 then 0
  else if coefficient = 1 then productOfFactors operands
  else productOfFactors (operands ++ [number coefficient])

/-- Multiply simplified factors. A factor zero decides the product before any
power is looked at. -/
def collectProduct
    (simplifyPart : Expr → Except RewriteError Expr)
    (operands : List Expr) : Except RewriteError Expr :=
  let coefficient := constantFactor operands
  if coefficient = 0 then .ok 0
  else do
    let collected ← (factorTally operands).mapM (collectedFactor simplifyPart)
    let factors := collected.flatten
    return assembleProduct
      (coefficient * constantFactor factors) (factors.filter (!·.isNumber))

/-- A constant raised to an exponent. An irrational power is kept, with a
positive exponent. -/
def numberPower (value exponent : Fraction) : Except RewriteError Expr := do
  match ← (value.pow exponent).mapError .arithmetic with
  | some result => return number result
  | none =>
      if exponent.num < 0 then
        let inverse ← value.reciprocal.mapError .arithmetic
        return power (number inverse) (-exponent)
      else return power (number value) exponent

/-- A simplified base raised to an exponent. -/
def raise
    (simplifyPart : Expr → Except RewriteError Expr)
    (base : Expr)
    (exponent : Fraction) : Except RewriteError Expr :=
  if exponent = 0 then do
    checkZeroExponent base
    return 1
  else if exponent = 1 then .ok base
  else
    match base with
    | number value => numberPower value exponent
    | power inner innerExponent => simplifyPart (power inner (innerExponent * exponent))
    | base => .ok (power base exponent)

/-- Simplify an expression, given how to simplify lighter ones. -/
def step
    (simplifyPart : Expr → Except RewriteError Expr) : Expr → Except RewriteError Expr
  | number value => .ok (number value)
  | symbol name => .ok (symbol name)
  | sum operands => do
      let simplified ← operands.mapM simplifyPart
      return collectSum (simplified.flatMap summands)
  | product operands => do
      let simplified ← operands.mapM simplifyPart
      collectProduct simplifyPart (simplified.flatMap Expr.factors)
  | power base exponent => do
      let simplified ← simplifyPart base
      raise simplifyPart simplified exponent

/-- Simplify down to a depth, and leave what lies deeper as it is. -/
def toDepth : Nat → Expr → Except RewriteError Expr
  | 0, expr => .ok expr
  | depth + 1, expr => step (toDepth depth) expr

end Simplify

/-- Simplify an expression. -/
def Expr.simplify (expr : Expr) : Except RewriteError Expr :=
  Simplify.toDepth (expr.weight + 1) expr

end ExactAlgebra
