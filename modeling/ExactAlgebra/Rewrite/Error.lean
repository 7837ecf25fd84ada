import ExactAlgebra.Expr.Linear

/-!
# What rewriting refuses

Rewriting an expression fails where its value is not defined: a power of zero
with a negative exponent, zero to the exponent zero, and an expression with
variables raised to the exponent zero, since it could be zero.
-/

namespace ExactAlgebra

/-- Why an expression could not be rewritten. -/
inductive RewriteError
  /-- A constant has no value. -/
  | arithmetic (cause : ArithmeticError)
  /-- The literal zero is raised to the exponent zero. -/
  | zeroToTheZero
  /-- An expression that could be zero is raised to the exponent zero. -/
  | indeterminate (base : Expr)
  deriving DecidableEq

namespace RewriteError

/-- The wording for a base, given by its text, that could be zero. -/
def indeterminateMessage (base : String) : String :=
  base ++ "^0 is undefined when " ++ base ++ " is 0"

/-- The wording of a failed rewriting. -/
def message : RewriteError → String
  | arithmetic cause => cause.message
  | zeroToTheZero => "Cannot evaluate 0^0"
  | indeterminate base => indeterminateMessage base.linear

end RewriteError

namespace Expr

/-- The exponent zero is allowed on a base without variables that is not the
literal zero. -/
def checkZeroExponent (base : Expr) : Except RewriteError Unit :=
  if base = 0 then .error .zeroToTheZero
  else if base.containsSymbols then .error (.indeterminate base)
  else .ok ()

/-- The terms of a sum; any other expression is one term. -/
def summands : Expr → List Expr
  | sum operands => operands
  | expr => [expr]

/-- The factors of a product; any other expression is one factor. -/
def factors : Expr → List Expr
  | product operands => operands
  | expr => [expr]

theorem summands_eq_singleton {expr : Expr} (notSum : expr.kind ≠ .sum) :
    expr.summands = [expr] := by
  cases expr with
  | sum operands => exact absurd rfl notSum
  | _ => rfl

theorem factors_eq_singleton {expr : Expr} (notProduct : expr.kind ≠ .product) :
    expr.factors = [expr] := by
  cases expr with
  | product operands => exact absurd rfl notProduct
  | _ => rfl

/-- The value of a constant. -/
def value? : Expr → Option Fraction
  | number value => some value
  | _ => none

/-- The expression is a constant. -/
def isNumber (expr : Expr) : Bool :=
  expr.value?.isSome

end Expr
end ExactAlgebra
