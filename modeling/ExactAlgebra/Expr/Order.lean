import ExactAlgebra.Expr.Basic
import ExactAlgebra.Sorting

/-!
# The canonical order

Expressions are ordered by their kinds first. Within a kind, numbers compare by
value, variables by name, powers by base and then exponent, and sums and products
operand by operand, the shorter one first when the other one continues it.

Sums and products keep their operands sorted by this order, so that two sums of
the same terms are equal no matter how they were written.
-/

namespace ExactAlgebra
namespace Expr

mutual
/-- Compare two expressions in the canonical order. -/
def compare : Expr → Expr → Ordering
  | number left, number right => left.compare right
  | symbol left, symbol right => Ord.compare left right
  | power leftBase leftExponent, power rightBase rightExponent =>
      (compare leftBase rightBase).then (leftExponent.compare rightExponent)
  | product left, product right => compareAll left right
  | sum left, sum right => compareAll left right
  | left, right => Ord.compare left.kind.rank right.kind.rank
/-- Compare two lists of expressions lexicographically. -/
def compareAll : List Expr → List Expr → Ordering
  | [], [] => .eq
  | [], _ :: _ => .lt
  | _ :: _, [] => .gt
  | left :: lefts, right :: rights => (compare left right).then (compareAll lefts rights)
end

instance : Ord Expr := ⟨compare⟩

/-- The left expression does not come after the right one. -/
def le (left right : Expr) : Bool :=
  (compare left right).isLE

/-- The operands in canonical order. -/
def arrange (operands : List Expr) : List Expr :=
  Sorting.sort le operands

/-- An expression as the constructors of sums and products leave it: every sum
and every product has at least two operands, in canonical order. -/
inductive WellFormed : Expr → Prop
  | number (value : Fraction) : WellFormed (number value)
  | symbol (name : Symbol) : WellFormed (symbol name)
  | sum
      (operands : List Expr)
      (several : 2 ≤ operands.length)
      (ordered : operands.Pairwise fun left right => le left right)
      (wellFormed : ∀ operand ∈ operands, WellFormed operand) :
      WellFormed (sum operands)
  | product
      (operands : List Expr)
      (several : 2 ≤ operands.length)
      (ordered : operands.Pairwise fun left right => le left right)
      (wellFormed : ∀ operand ∈ operands, WellFormed operand) :
      WellFormed (product operands)
  | power
      (base : Expr)
      (exponent : Fraction)
      (wellFormed : WellFormed base) :
      WellFormed (power base exponent)

mutual
/-- Whether an expression is well-formed can be computed. -/
def decideWellFormed : (expr : Expr) → Decidable (WellFormed expr)
  | number value => .isTrue (.number value)
  | symbol name => .isTrue (.symbol name)
  | sum operands =>
      have := decideAllWellFormed operands
      decidable_of_iff
        (2 ≤ operands.length ∧ (operands.Pairwise fun left right => le left right) ∧
          ∀ operand ∈ operands, WellFormed operand)
        ⟨fun ⟨several, ordered, parts⟩ => .sum _ several ordered parts,
          fun | .sum _ several ordered parts => ⟨several, ordered, parts⟩⟩
  | product operands =>
      have := decideAllWellFormed operands
      decidable_of_iff
        (2 ≤ operands.length ∧ (operands.Pairwise fun left right => le left right) ∧
          ∀ operand ∈ operands, WellFormed operand)
        ⟨fun ⟨several, ordered, parts⟩ => .product _ several ordered parts,
          fun | .product _ several ordered parts => ⟨several, ordered, parts⟩⟩
  | power base exponent =>
      have := decideWellFormed base
      decidable_of_iff (WellFormed base)
        ⟨.power base exponent, fun | .power _ _ inner => inner⟩
/-- Whether all expressions of a list are well-formed can be computed. -/
def decideAllWellFormed :
    (operands : List Expr) → Decidable (∀ operand ∈ operands, WellFormed operand)
  | [] => .isTrue (List.forall_mem_nil _)
  | operand :: operands =>
      have := decideWellFormed operand
      have := decideAllWellFormed operands
      decidable_of_iff (WellFormed operand ∧ ∀ other ∈ operands, WellFormed other)
        List.forall_mem_cons.symm
end

instance : DecidablePred WellFormed := decideWellFormed

end Expr
end ExactAlgebra
