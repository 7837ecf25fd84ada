import ExactAlgebra.Rewrite.Derivative
import ExactAlgebra.Rewrite.Repetition
import ExactAlgebra.Rewrite.Simplify

/-!
# Passes

A pass is one of the three ways to rewrite an expression: simplification,
expansion, and differentiation with respect to a variable.
-/

namespace ExactAlgebra

/-- A way to rewrite an expression. -/
inductive Pass
  | simplify
  | expand
  | differentiate (target : Symbol)
  deriving DecidableEq

namespace Pass

/-- The name of a pass, which also describes it to a reader of pass names. -/
def name : Pass → String
  | simplify => "simplify"
  | expand => "expand"
  | differentiate target => "differentiate:" ++ target.text

/-- Rewrite an expression. -/
def apply : Pass → Expr → Except RewriteError Expr
  | simplify, expr => expr.simplify
  | expand, expr => expr.expand
  | differentiate target, expr => .ok (expr.derivative target)

/-- Why rewriting an expression breaks off, if it meets a power that cannot be unrolled.
Expansion alone unrolls powers. -/
def repetitionError? : Pass → Expr → Option RepetitionError
  | expand, expr => expr.repetitionError?
  | simplify, _ => none
  | differentiate _, _ => none

end Pass
end ExactAlgebra
