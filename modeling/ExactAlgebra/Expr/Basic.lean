import ExactAlgebra.Fraction.Arithmetic
import ExactAlgebra.Symbol

/-!
# Expressions

Expressions are trees over rational constants and variables, with sums and
products of any number of operands and powers with rational exponents. Nothing
is evaluated by building an expression.
-/

namespace ExactAlgebra

/-- An algebraic expression. -/
inductive Expr
  | number (value : Fraction)
  | symbol (name : Symbol)
  | sum (operands : List Expr)
  | product (operands : List Expr)
  | power (base : Expr) (exponent : Fraction)

namespace Expr

/-- The five kinds of expressions, from the lowest to the highest in the
canonical order. -/
inductive Kind
  | number
  | symbol
  | power
  | product
  | sum
  deriving DecidableEq

namespace Kind

/-- The position of a kind in the canonical order. -/
def rank : Kind → Nat
  | number => 0
  | symbol => 1
  | power => 2
  | product => 3
  | sum => 4

/-- The name of a kind. -/
def name : Kind → String
  | number => "Number"
  | symbol => "Variable"
  | power => "Power"
  | product => "Product"
  | sum => "Sum"

end Kind

/-- The kind of an expression. -/
def kind : Expr → Kind
  | number _ => .number
  | symbol _ => .symbol
  | sum _ => .sum
  | product _ => .product
  | power _ _ => .power

instance (literal : Nat) : OfNat Expr literal := ⟨number (OfNat.ofNat literal)⟩

instance : Inhabited Expr := ⟨0⟩

/-- The constant minus one. -/
def minusOne : Expr := number (-1)

/-- Prove a property of all expressions from the operands of sums and products
and the bases of powers. -/
@[induction_eliminator, elab_as_elim]
theorem induction
    {motive : Expr → Prop}
    (number : ∀ value, motive (number value))
    (symbol : ∀ name, motive (symbol name))
    (sum : ∀ operands, (∀ operand ∈ operands, motive operand) → motive (sum operands))
    (product :
      ∀ operands, (∀ operand ∈ operands, motive operand) → motive (product operands))
    (power : ∀ base exponent, motive base → motive (power base exponent))
    (expr : Expr) : motive expr :=
  Expr.rec number symbol sum product power
    (fun _ member => nomatch member)
    (fun _ _ head tail operand member => by
      rcases List.mem_cons.mp member with equal | inTail
      · exact equal ▸ head
      · exact tail operand inTail)
    expr

mutual
/-- Two expressions are built in the same way. -/
def same : Expr → Expr → Bool
  | number left, number right => left = right
  | symbol left, symbol right => left = right
  | sum left, sum right => sameAll left right
  | product left, product right => sameAll left right
  | power leftBase leftExponent, power rightBase rightExponent =>
      leftExponent = rightExponent && same leftBase rightBase
  | _, _ => false
/-- Two lists of expressions are built in the same way. -/
def sameAll : List Expr → List Expr → Bool
  | [], [] => true
  | left :: lefts, right :: rights => same left right && sameAll lefts rights
  | _, _ => false
end

/-- Comparing lists element by element decides equality when comparing their
elements does. -/
theorem sameAll_eq_true_iff
    {left : List Expr}
    (hypothesis : ∀ operand ∈ left, ∀ other, same operand other = true ↔ operand = other)
    (right : List Expr) :
    sameAll left right = true ↔ left = right := by
  induction left generalizing right with
  | nil => cases right <;> simp [sameAll]
  | cons head tail tailHypothesis =>
      cases right with
      | nil => simp [sameAll]
      | cons other others =>
          simp only [sameAll, Bool.and_eq_true, List.cons.injEq]
          rw [hypothesis head List.mem_cons_self,
            tailHypothesis fun operand member =>
              hypothesis operand (List.mem_cons_of_mem _ member)]

/-- Expressions are built in the same way exactly when they are equal. -/
theorem same_eq_true_iff (left right : Expr) : same left right = true ↔ left = right := by
  induction left generalizing right with
  | number value => cases right <;> simp [same]
  | symbol name => cases right <;> simp [same]
  | sum operands hypothesis =>
      cases right <;> simp [same, sameAll_eq_true_iff hypothesis]
  | product operands hypothesis =>
      cases right <;> simp [same, sameAll_eq_true_iff hypothesis]
  | power base exponent hypothesis =>
      cases right <;> simp [same, hypothesis, and_comm]

instance : DecidableEq Expr := fun left right =>
  decidable_of_iff (same left right = true) (same_eq_true_iff left right)

/-- The direct parts of an expression. -/
def children : Expr → List Expr
  | number _ => []
  | symbol _ => []
  | sum operands => operands
  | product operands => operands
  | power base _ => [base]

mutual
/-- A variable occurs in the expression. -/
def containsSymbols : Expr → Bool
  | number _ => false
  | symbol _ => true
  | sum operands => anyContainsSymbols operands
  | product operands => anyContainsSymbols operands
  | power base _ => containsSymbols base
/-- A variable occurs in one of the expressions. -/
def anyContainsSymbols : List Expr → Bool
  | [] => false
  | operand :: operands => containsSymbols operand || anyContainsSymbols operands
end

end Expr
end ExactAlgebra
