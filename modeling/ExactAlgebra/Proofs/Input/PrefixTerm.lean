import ExactAlgebra.Proofs.Input.Leaf

/-!
# Terms in prefix notation

A term is a leaf or an operator applied to two terms. It is written as a list of words,
with each operator in front of the words of its left and of its right operand, and no
two terms are written alike. Building a term applies the operators from the leaves
upwards, and fails where an exponent is refused.
-/

namespace ExactAlgebra
namespace Input

namespace Operator

theorem sign_injective : Function.Injective sign := by
  intro first second equal
  have found := congrArg ofSign? equal
  rw [ofSign?_sign, ofSign?_sign] at found
  exact Option.some.inj found

theorem sign_of_ofSign?_eq_some
    {word : String}
    {operator : Operator}
    (found : ofSign? word = some operator) :
    operator.sign = word := by
  have same := List.find?_some found
  exact of_decide_eq_true same

/-- The expression that an operator makes of two operands. -/
def build (operator : Operator) (left right : Expr) : Except ExponentError Expr :=
  match operator with
  | plus => .ok (Expr.sumOf [left, right])
  | minus => .ok (Expr.difference left [right])
  | times => .ok (Expr.productOf [left, right])
  | slash => .ok (Expr.quotient left [right])
  | caret => left.raiseTo right

end Operator

/-- A leaf, or an operator applied to two terms. -/
inductive PrefixTerm
  | leaf (written : Leaf)
  | apply (operator : Operator) (left right : PrefixTerm)

namespace PrefixTerm

/-- The words of a term. -/
def tokens : PrefixTerm → List String
  | leaf written => [written.text]
  | apply operator left right => operator.sign :: (left.tokens ++ right.tokens)

/-- The expression that a term stands for. If both operands of an operator fail, the
right one tells why. -/
def build : PrefixTerm → Except ExponentError Expr
  | leaf written => .ok written.expr
  | apply operator left right => do
      let second ← right.build
      let first ← left.build
      operator.build first second

/-- Where the words of a term end is told by the words themselves. -/
theorem tokens_append_inj
    {first second : PrefixTerm}
    {firstRest secondRest : List String}
    (equal : first.tokens ++ firstRest = second.tokens ++ secondRest) :
    first = second ∧ firstRest = secondRest := by
  induction first generalizing second firstRest secondRest with
  | leaf written =>
      cases second with
      | leaf other =>
          obtain ⟨sameText, sameRest⟩ := List.cons.inj equal
          rw [Leaf.text_injective sameText]
          exact ⟨rfl, sameRest⟩
      | apply operator left right =>
          exact absurd (List.cons.inj equal).1.symm (Leaf.sign_ne_text operator written)
  | apply operator left right leftHypothesis rightHypothesis =>
      cases second with
      | leaf other =>
          exact absurd (List.cons.inj equal).1 (Leaf.sign_ne_text operator other)
      | apply otherOperator otherLeft otherRight =>
          rw [tokens, tokens, List.cons_append, List.cons_append, List.append_assoc,
            List.append_assoc] at equal
          obtain ⟨sameSign, others⟩ := List.cons.inj equal
          obtain ⟨rfl, afterLeft⟩ := leftHypothesis others
          obtain ⟨rfl, sameRest⟩ := rightHypothesis afterLeft
          rw [Operator.sign_injective sameSign]
          exact ⟨rfl, sameRest⟩

/-- No two terms are written alike. -/
theorem tokens_injective : Function.Injective tokens := by
  intro first second equal
  have padded : first.tokens ++ [] = second.tokens ++ [] := by rw [equal]
  exact (tokens_append_inj padded).1

end PrefixTerm
end Input

/-! ## Failures -/

namespace ExponentError

/-- The failure to read that a refused exponent is in a format. -/
def inFormat (format : Format) : ExponentError → ReadError
  | rewrite cause => .rewrite cause
  | notRational => .refused format .exponentNotRational

end ExponentError

namespace Input

/-- Both formats apply an operator to two operands as terms do. -/
theorem combine_pair (format : Format) (operator : Operator) (left right : Expr) :
    combine format operator [left, right] =
      (operator.build left right).mapError (·.inFormat format) := by
  cases operator with
  | plus | minus | times | slash => rfl
  | caret =>
      change raise format left right = (left.raiseTo right).mapError (·.inFormat format)
      unfold raise
      cases left.raiseTo right with
      | ok power => rfl
      | error cause => cases cause <;> rfl

end Input
end ExactAlgebra
