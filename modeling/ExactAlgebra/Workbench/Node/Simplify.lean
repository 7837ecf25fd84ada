import ExactAlgebra.Rewrite.Simplify
import ExactAlgebra.Workbench.Node.Build

/-!
# Simplifying nodes

Simplification computes with constants and exponents, and what it computes is made
anew. What it only passes on is shown as it was given: a lone constant, the base
of an irrational power, and an exponent that nothing is multiplied with.
-/

namespace ExactAlgebra
namespace Workbench
namespace Node

/-- The first of the given nodes with an expression. -/
def representative (nodes : List (Expr × Node)) (key : Expr) : Node :=
  ((nodes.find? fun entry => entry.1 = key).map Prod.snd).getD (ofExpr key)

/-- A term apart from its coefficient. -/
def termBody : Node → Node
  | product (number _ :: rest) => productOfFactors rest
  | term => term

/-- A factor apart from its exponent. -/
def factorBase : Node → Node
  | power base _ => base
  | factor => factor

/-- A term with a coefficient, which joins the factors of a product. -/
def scale (coefficient : Fraction) : Node → Node
  | product operands => productOf (operands ++ [constant coefficient])
  | term => productOf [constant coefficient, term]

/-- The term that a tallied coefficient leaves, if any. -/
def collectedTerm? (term : Node) (coefficient : Fraction) : Option Node :=
  if coefficient = 0 then none
  else if coefficient = 1 then some term
  else some (scale coefficient term)

/-- Add up simplified terms. -/
def collectSum (operands : List Node) : Node :=
  let given := exprs operands
  let total := Simplify.constantTerm given
  let bodies := keyed ((operands.filter (!·.isNumber)).map termBody)
  let terms := (Simplify.termTally given).filterMap fun (key, coefficient) =>
    collectedTerm? (representative bodies key) coefficient
  sumOfTerms (if total = 0 then terms else constant total :: terms)

/-- The factors that a tallied exponent leaves: none for the exponent zero, the
base itself for the exponent one, and a simplified power otherwise. -/
def collectedFactor (simplifyPart : Node → Outcome Node) (base : Node) (exponent : Fraction) :
    Outcome (List Node) :=
  if exponent = 0 then
    if base.isLiteral 0 then .error (.rewrite .zeroToTheZero) else .ok []
  else if exponent = 1 then .ok [base]
  else do
    let factor ← simplifyPart (power base (.plain exponent))
    return [factor]

/-- A product of factors and a coefficient. -/
def assembleProduct (coefficient : Fraction) (operands : List Node) : Node :=
  if coefficient = 0 then constant 0
  else if coefficient = 1 then productOfFactors operands
  else productOfFactors (operands ++ [constant coefficient])

/-- Multiply simplified factors. A factor zero decides the product before any
power is looked at. -/
def collectProduct (simplifyPart : Node → Outcome Node) (operands : List Node) :
    Outcome Node :=
  let given := exprs operands
  let coefficient := Simplify.constantFactor given
  if coefficient = 0 then .ok (constant 0)
  else do
    let bases := keyed ((operands.filter (!·.isNumber)).map factorBase)
    let collected ← (Simplify.factorTally given).mapM fun (key, exponent) =>
      collectedFactor simplifyPart (representative bases key) exponent
    let factors := collected.flatten
    return assembleProduct (coefficient * Simplify.constantFactor (exprs factors))
      (factors.filter (!·.isNumber))

/-- A constant raised to an exponent. An irrational power is kept, with a
positive exponent. -/
def numberPower (value exponent : Numeral) : Outcome Node := do
  match ← (value.value.pow exponent.value).mapError .arithmetic with
  | some result => return constant result
  | none =>
      if exponent.value.num < 0 then
        let inverse ← value.reciprocal.mapError .arithmetic
        return power (number inverse) exponent.opposite
      else return power (number value) exponent

/-- A simplified base raised to an exponent. -/
def raise (simplifyPart : Node → Outcome Node) (base : Node) (exponent : Numeral) :
    Outcome Node :=
  if exponent.value = 0 then do
    checkZeroExponent base
    return constant 1
  else if exponent.value = 1 then .ok base
  else
    match base with
    | number value => numberPower value exponent
    | power inner innerExponent =>
        simplifyPart (power inner (.plain (innerExponent.value * exponent.value)))
    | base => .ok (power base exponent)

/-- Simplify a node, given how to simplify nodes with lighter expressions. -/
def simplifyStep (simplifyPart : Node → Outcome Node) : Node → Outcome Node
  | number value => .ok (number value)
  | symbol name => .ok (symbol name)
  | sum operands => do
      let simplified ← operands.mapM simplifyPart
      return collectSum (simplified.flatMap summands)
  | product operands => do
      let simplified ← operands.mapM simplifyPart
      collectProduct simplifyPart (simplified.flatMap factors)
  | power base exponent => do
      let simplified ← simplifyPart base
      raise simplifyPart simplified exponent

/-- Simplify down to a depth, and leave what lies deeper as it is. -/
def simplifyToDepth : Nat → Node → Outcome Node
  | 0, node => .ok node
  | depth + 1, node => simplifyStep (simplifyToDepth depth) node

/-- Simplify a node. -/
def simplify (node : Node) : Outcome Node :=
  simplifyToDepth (node.expr.weight + 1) node

end Node
end Workbench
end ExactAlgebra
