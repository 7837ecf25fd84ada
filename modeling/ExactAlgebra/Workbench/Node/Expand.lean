import ExactAlgebra.Rewrite.Expand
import ExactAlgebra.Workbench.Node.Build

/-!
# Expanding nodes

Expansion moves constants about without computing with them, so every constant of
the result is shown as it was given. Exponents are unrolled and made anew, unless they
ask for more repetitions than can be written out.
-/

namespace ExactAlgebra
namespace Workbench
namespace Node

/-- Multiply two nodes, every term of the left one with every term of the right
one. -/
def distribute (left right : Node) : Node :=
  sumOfTerms (left.summands.flatMap fun leftTerm =>
    right.summands.map fun rightTerm => productOf [leftTerm, rightTerm])

/-- Multiply nodes from left to right. -/
def distributeAll : List Node → Node
  | [] => constant 1
  | first :: others => others.foldl distribute first

/-- The product of `count` copies of a node. A sum gives one term for each choice
of a term in every copy. -/
def repeated (count : Nat) : Node → Node
  | sum operands => sumOfTerms ((Expand.selections operands count).map productOfFactors)
  | base => productOfFactors (List.replicate count base)

/-- Unroll the numerator of an exponent other than zero and one. -/
def unroll (base : Node) (exponent : Fraction) : Node :=
  let unrolled := repeated exponent.num.natAbs base
  if exponent.isInteger ∧ 0 < exponent.num then unrolled
  else power unrolled (.plain (Expand.rootExponent exponent))

mutual
/-- Distribute products over sums and unroll powers. -/
def expand : Node → Outcome Node
  | number value => .ok (number value)
  | symbol name => .ok (symbol name)
  | sum operands => do
      let expanded ← expandAll operands
      return sumOf (expanded.flatMap summands)
  | product operands => do
      let expanded ← expandAll operands
      return distributeAll expanded
  | power base exponent =>
      if exponent.value = 0 then do
        checkZeroExponent base
        return constant 1
      else do
        let expanded ← expand base
        checkRepetition exponent.value.num.natAbs expanded.expr
        return if exponent.value = 1 then expanded else unroll expanded exponent.value
/-- Expand every node of a list; the first failure counts. -/
def expandAll : List Node → Outcome (List Node)
  | [] => .ok []
  | operand :: operands => do
      let first ← expand operand
      let others ← expandAll operands
      return first :: others
end

end Node
end Workbench
end ExactAlgebra
