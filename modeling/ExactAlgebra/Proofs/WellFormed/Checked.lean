import ExactAlgebra.Pass.Basic
import ExactAlgebra.Workbench.Fault

/-!
# Passes that check what they build

The passes put operands together without counting them. Here they are written with
constructors that refuse a sum or a product of fewer than two operands, at every
place where a pass builds one. A lone term or factor still stands for itself where
the rules say so, and nothing else is different.
-/

namespace ExactAlgebra
namespace Checked

open ExactAlgebra.Expr ExactAlgebra.Workbench

/-- Build an expression of a kind from at least two operands. -/
def build
    (kind : Kind)
    (make : List Expr → Expr)
    (operands : List Expr) : Outcome Expr :=
  if operands.length < 2 then
    .error (.malformed (.tooFewOperands kind.name operands.length))
  else .ok (make operands)

/-- The sum of at least two operands. -/
def sumOf : List Expr → Outcome Expr :=
  build .sum Expr.sumOf

/-- The product of at least two operands. -/
def productOf : List Expr → Outcome Expr :=
  build .product Expr.productOf

/-- The sum of any number of terms. -/
def sumOfTerms : List Expr → Outcome Expr
  | [] => .ok 0
  | [term] => .ok term
  | terms => sumOf terms

/-- The product of any number of factors. -/
def productOfFactors : List Expr → Outcome Expr
  | [] => .ok 1
  | [factor] => .ok factor
  | factors => productOf factors

/-- The product of at least one factor. -/
def productOfSome : List Expr → Outcome Expr
  | [factor] => .ok factor
  | factors => productOf factors

/-! ## Simplification -/

/-- A term apart from its coefficient, and the coefficient. -/
def splitTerm : Expr → Outcome (Expr × Fraction)
  | product (number coefficient :: rest) => do return (← productOfSome rest, coefficient)
  | term => .ok (term, 1)

/-- A term with a coefficient. -/
def scale (coefficient : Fraction) : Expr → Outcome Expr
  | product operands => productOf (operands ++ [number coefficient])
  | term => productOf [number coefficient, term]

/-- The term that a tallied coefficient leaves, if any. -/
def collectedTerm? (entry : Expr × Fraction) : Outcome (Option Expr) :=
  if entry.2 = 0 then .ok none
  else if entry.2 = 1 then .ok (some entry.1)
  else do return some (← scale entry.2 entry.1)

/-- Add up simplified terms. -/
def collectSum (operands : List Expr) : Outcome Expr := do
  let entries ← (operands.filter (!·.isNumber)).mapM splitTerm
  let terms ← (Tally.ofEntries entries).mapM collectedTerm?
  let constant := Simplify.constantTerm operands
  sumOfTerms (if constant = 0 then terms.filterMap id else number constant :: terms.filterMap id)

/-- The factors that a tallied exponent leaves. -/
def collectedFactor
    (simplifyPart : Expr → Outcome Expr)
    (entry : Expr × Fraction) : Outcome (List Expr) :=
  if entry.2 = 0 then
    if entry.1 = 0 then .error (.rewrite .zeroToTheZero) else .ok []
  else if entry.2 = 1 then .ok [entry.1]
  else do
    let factor ← simplifyPart (power entry.1 entry.2)
    return [factor]

/-- A product of factors and a coefficient. -/
def assembleProduct (coefficient : Fraction) (operands : List Expr) : Outcome Expr :=
  if coefficient = 0 then .ok 0
  else if coefficient = 1 then productOfFactors operands
  else productOfFactors (operands ++ [number coefficient])

/-- Multiply simplified factors. -/
def collectProduct
    (simplifyPart : Expr → Outcome Expr)
    (operands : List Expr) : Outcome Expr :=
  let coefficient := Simplify.constantFactor operands
  if coefficient = 0 then .ok 0
  else do
    let collected ← (Simplify.factorTally operands).mapM (collectedFactor simplifyPart)
    let factors := collected.flatten
    assembleProduct
      (coefficient * Simplify.constantFactor factors) (factors.filter (!·.isNumber))

/-- A simplified base raised to an exponent. -/
def raise
    (simplifyPart : Expr → Outcome Expr)
    (base : Expr)
    (exponent : Fraction) : Outcome Expr :=
  if exponent = 0 then do
    (checkZeroExponent base).mapError .rewrite
    return 1
  else if exponent = 1 then .ok base
  else
    match base with
    | number value => (Simplify.numberPower value exponent).mapError .rewrite
    | power inner innerExponent => simplifyPart (power inner (innerExponent * exponent))
    | base => .ok (power base exponent)

/-- Simplify an expression, given how to simplify lighter ones. -/
def simplifyStep (simplifyPart : Expr → Outcome Expr) : Expr → Outcome Expr
  | number value => .ok (number value)
  | symbol name => .ok (symbol name)
  | sum operands => do
      let simplified ← operands.mapM simplifyPart
      collectSum (simplified.flatMap summands)
  | product operands => do
      let simplified ← operands.mapM simplifyPart
      collectProduct simplifyPart (simplified.flatMap Expr.factors)
  | power base exponent => do
      let simplified ← simplifyPart base
      raise simplifyPart simplified exponent

/-- Simplify down to a depth, and leave what lies deeper as it is. -/
def simplifyToDepth : Nat → Expr → Outcome Expr
  | 0, expr => .ok expr
  | depth + 1, expr => simplifyStep (simplifyToDepth depth) expr

/-- Simplify an expression. -/
def simplify (expr : Expr) : Outcome Expr :=
  simplifyToDepth (expr.weight + 1) expr

/-! ## Expansion -/

/-- Multiply two expressions, every term of the left one with every term of the
right one. -/
def distribute (left right : Expr) : Outcome Expr := do
  let pairs := left.summands.flatMap fun leftTerm =>
    right.summands.map fun rightTerm => [leftTerm, rightTerm]
  sumOfTerms (← pairs.mapM productOf)

/-- Multiply expressions from left to right. -/
def distributeAll : List Expr → Outcome Expr
  | [] => .ok 1
  | first :: others => others.foldlM distribute first

/-- The product of `count` copies of an expression. -/
def repeated (count : Nat) : Expr → Outcome Expr
  | sum operands => do
      sumOfTerms (← (Expand.selections operands count).mapM productOfSome)
  | base => if 1 < count then productOf (List.replicate count base) else .ok base

/-- Unroll the numerator of an exponent other than zero and one. -/
def unroll (base : Expr) (exponent : Fraction) : Outcome Expr := do
  let unrolled ← repeated exponent.num.natAbs base
  return if exponent.isInteger ∧ 0 < exponent.num then unrolled
    else power unrolled (Expand.rootExponent exponent)

mutual
/-- Distribute products over sums and unroll powers. -/
def expand : Expr → Outcome Expr
  | number value => .ok (number value)
  | symbol name => .ok (symbol name)
  | sum operands => do
      let expanded ← expandAll operands
      sumOf (expanded.flatMap summands)
  | product operands => do
      let expanded ← expandAll operands
      distributeAll expanded
  | power base exponent =>
      if exponent = 0 then do
        (checkZeroExponent base).mapError .rewrite
        return 1
      else do
        let expanded ← expand base
        if exponent = 1 then return expanded else unroll expanded exponent
/-- Expand every expression of a list. -/
def expandAll : List Expr → Outcome (List Expr)
  | [] => .ok []
  | operand :: operands => do
      let first ← expand operand
      let others ← expandAll operands
      return first :: others
end

/-! ## Derivatives -/

/-- The product rule for operands paired with their derivatives. -/
def productRule (pairs : List (Expr × Expr)) : Outcome Expr :=
  let constants := (pairs.filter fun pair => pair.2 = 0).map Prod.fst
  match pairs.filter fun pair => pair.2 ≠ 0 with
  | [] => .ok 0
  | [(_, derivative)] => productOf (constants ++ [derivative])
  | varying => do
      let terms ← (Derivative.picks varying).mapM fun (picked, others) =>
        productOf (others.map Prod.fst ++ picked.2 :: constants)
      sumOf terms

/-- The rule for an exponent other than zero and one, given the derivative of the
base. -/
def powerRule (base : Expr) (exponent : Fraction) (inner : Expr) : Outcome Expr :=
  if inner = 0 then .ok 0
  else if inner = 1 then productOf [number exponent, power base (exponent - 1)]
  else productOf [number exponent, power base (exponent - 1), inner]

mutual
/-- The derivative with respect to a variable. -/
def derivative (target : Symbol) : Expr → Outcome Expr
  | number _ => .ok 0
  | symbol name => .ok (if name = target then 1 else 0)
  | sum operands => do
      let found ← derivatives target operands
      sumOfTerms (found.filter (· ≠ 0))
  | product operands => do
      let found ← derivatives target operands
      productRule (operands.zip found)
  | power base exponent =>
      if exponent = 0 then .ok 0
      else if exponent = 1 then derivative target base
      else do powerRule base exponent (← derivative target base)
/-- The derivatives of a list of expressions. -/
def derivatives (target : Symbol) : List Expr → Outcome (List Expr)
  | [] => .ok []
  | operand :: operands => do
      let first ← derivative target operand
      let others ← derivatives target operands
      return first :: others
end

/-- Rewrite an expression. -/
def apply : Pass → Expr → Outcome Expr
  | .simplify => simplify
  | .expand => expand
  | .differentiate target => derivative target

/-- A sum with a single operand is not well formed, and building it again is refused. -/
example : apply .expand (sum [1]) = .error (.malformed (.tooFewOperands "Sum" 1)) := by
  rfl

end Checked
end ExactAlgebra
