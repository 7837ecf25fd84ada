import ExactAlgebra.Rewrite.Expand
import ExactAlgebra.Rewrite.Simplify

/-!
# The cases of simplification and expansion

What a simplified base leads to when it is raised to an exponent, what a tallied exponent
leaves among the factors, and what a power expands to depends on the exponent and on the
base; what factors multiply to depends on their constants. Each of these has a list of its
cases here, with all that is known in a case, so that what holds of all results can be
shown case by case.
-/

namespace ExactAlgebra

/-- A computation with a continuation succeeds when both do. -/
theorem except_bind_eq_ok
    {computation : Except ε α}
    {continuation : α → Except ε β}
    {result : β}
    (success : computation >>= continuation = .ok result) :
    ∃ value, computation = .ok value ∧ continuation value = .ok result := by
  cases computation with
  | error cause => cases success
  | ok value => exact ⟨value, rfl, success⟩

/-- A computation with a continuation fails when one of them does. -/
theorem except_bind_eq_error
    {computation : Except ε α}
    {continuation : α → Except ε β}
    {cause : ε}
    (failure : computation >>= continuation = .error cause) :
    computation = .error cause ∨
      ∃ value, computation = .ok value ∧ continuation value = .error cause := by
  cases computation with
  | error _ =>
      cases failure
      exact .inl rfl
  | ok value => exact .inr ⟨value, rfl, failure⟩

namespace Simplify

open ExactAlgebra.Expr

variable {simplifyPart : Expr → Except RewriteError Expr}

/-- The results of raising a simplified base to an exponent. -/
inductive RaisesTo
    (simplifyPart : Expr → Except RewriteError Expr)
    (exponent : Fraction) : Expr → Expr → Prop
  | zero (base : Expr) (isZero : exponent = 0) :
      RaisesTo simplifyPart exponent base 1
  | one (base : Expr) (isOne : exponent = 1) :
      RaisesTo simplifyPart exponent base base
  | constant {value : Fraction} {result : Expr}
      (nonzero : exponent ≠ 0)
      (notOne : exponent ≠ 1)
      (found : numberPower value exponent = .ok result) :
      RaisesTo simplifyPart exponent (number value) result
  | nested {inner result : Expr} {innerExponent : Fraction}
      (nonzero : exponent ≠ 0)
      (notOne : exponent ≠ 1)
      (found : simplifyPart (power inner (innerExponent * exponent)) = .ok result) :
      RaisesTo simplifyPart exponent (power inner innerExponent) result
  | kept {base : Expr}
      (nonzero : exponent ≠ 0)
      (notOne : exponent ≠ 1)
      (notNumber : base.isNumber = false)
      (flat : base.kind ≠ .power) :
      RaisesTo simplifyPart exponent base (power base exponent)

theorem raisesTo_of_raise_eq_ok
    {base result : Expr}
    {exponent : Fraction}
    (success : raise simplifyPart base exponent = .ok result) :
    RaisesTo simplifyPart exponent base result := by
  unfold raise at success
  by_cases isZero : exponent = 0
  · rw [if_pos isZero] at success
    obtain ⟨_, _, last⟩ := except_bind_eq_ok success
    cases last
    exact .zero base isZero
  · rw [if_neg isZero] at success
    by_cases isOne : exponent = 1
    · rw [if_pos isOne] at success
      cases success
      exact .one base isOne
    · rw [if_neg isOne] at success
      cases base with
      | number value => exact .constant isZero isOne success
      | power inner innerExponent => exact .nested isZero isOne success
      | symbol name =>
          cases success
          exact .kept isZero isOne rfl Kind.noConfusion
      | sum operands =>
          cases success
          exact .kept isZero isOne rfl Kind.noConfusion
      | product operands =>
          cases success
          exact .kept isZero isOne rfl Kind.noConfusion

/-- The factors that a tallied exponent of a base leaves. -/
inductive CollectsTo
    (simplifyPart : Expr → Except RewriteError Expr)
    (base : Expr)
    (exponent : Fraction) : List Expr → Prop
  | zero (isZero : exponent = 0) (nonzero : base ≠ 0) :
      CollectsTo simplifyPart base exponent []
  | one (isOne : exponent = 1) :
      CollectsTo simplifyPart base exponent [base]
  | power {factor : Expr}
      (nonzero : exponent ≠ 0)
      (notOne : exponent ≠ 1)
      (found : simplifyPart (power base exponent) = .ok factor) :
      CollectsTo simplifyPart base exponent [factor]

theorem collectsTo_of_collectedFactor_eq_ok
    {entry : Expr × Fraction}
    {factors : List Expr}
    (collected : collectedFactor simplifyPart entry = .ok factors) :
    CollectsTo simplifyPart entry.1 entry.2 factors := by
  unfold collectedFactor at collected
  by_cases isZero : entry.2 = 0
  · rw [if_pos isZero] at collected
    by_cases literalZero : entry.1 = 0
    · rw [if_pos literalZero] at collected
      cases collected
    · rw [if_neg literalZero] at collected
      cases collected
      exact .zero isZero literalZero
  · rw [if_neg isZero] at collected
    by_cases isOne : entry.2 = 1
    · rw [if_pos isOne] at collected
      cases collected
      exact .one isOne
    · rw [if_neg isOne] at collected
      obtain ⟨factor, found, last⟩ := except_bind_eq_ok collected
      cases last
      exact .power isZero isOne found

/-- The results of multiplying simplified factors. -/
inductive MultipliesTo
    (simplifyPart : Expr → Except RewriteError Expr)
    (operands : List Expr) : Expr → Prop
  | zero (isZero : constantFactor operands = 0) :
      MultipliesTo simplifyPart operands 0
  | assembled {collected : List (List Expr)}
      (nonzero : constantFactor operands ≠ 0)
      (mapped : (factorTally operands).mapM (collectedFactor simplifyPart) = .ok collected) :
      MultipliesTo simplifyPart operands
        (assembleProduct (constantFactor operands * constantFactor collected.flatten)
          (collected.flatten.filter (!·.isNumber)))

theorem multipliesTo_of_collectProduct_eq_ok
    {operands : List Expr}
    {result : Expr}
    (success : collectProduct simplifyPart operands = .ok result) :
    MultipliesTo simplifyPart operands result := by
  unfold collectProduct at success
  dsimp only at success
  by_cases isZero : constantFactor operands = 0
  · rw [if_pos isZero] at success
    cases success
    exact .zero isZero
  · rw [if_neg isZero] at success
    obtain ⟨collected, mapped, last⟩ := except_bind_eq_ok success
    cases last
    exact .assembled isZero mapped

/-- A tallied coefficient other than zero leaves its term, with the coefficient if that
is not one. -/
theorem cases_of_collectedTerm?_eq_some
    {entry : Expr × Fraction}
    {term : Expr}
    (collected : collectedTerm? entry = some term) :
    (entry.2 = 1 ∧ term = entry.1) ∨
      (entry.2 ≠ 0 ∧ entry.2 ≠ 1 ∧ term = scale entry.2 entry.1) := by
  unfold collectedTerm? at collected
  by_cases isZero : entry.2 = 0
  · rw [if_pos isZero] at collected
    cases collected
  · rw [if_neg isZero] at collected
    by_cases isOne : entry.2 = 1
    · rw [if_pos isOne] at collected
      cases collected
      exact Or.inl ⟨isOne, rfl⟩
    · rw [if_neg isOne] at collected
      cases collected
      exact Or.inr ⟨isZero, isOne, rfl⟩

end Simplify

namespace Expr

theorem expandAll_eq_mapM (operands : List Expr) : expandAll operands = operands.mapM expand := by
  induction operands with
  | nil => rfl
  | cons operand operands hypothesis =>
      rw [expandAll, List.mapM_cons, hypothesis]

/-- The results of expanding an expression. -/
inductive ExpandsTo : Expr → Expr → Prop
  | number (value : Fraction) : ExpandsTo (number value) (number value)
  | symbol (name : Symbol) : ExpandsTo (symbol name) (symbol name)
  | sum {operands results : List Expr}
      (mapped : operands.mapM expand = .ok results) :
      ExpandsTo (sum operands) (sumOf (results.flatMap summands))
  | product {operands results : List Expr}
      (mapped : operands.mapM expand = .ok results) :
      ExpandsTo (product operands) (Expand.distributeAll results)
  | zero (base : Expr) {exponent : Fraction} (isZero : exponent = 0) :
      ExpandsTo (power base exponent) 1
  | one {base inner : Expr} {exponent : Fraction}
      (isOne : exponent = 1)
      (found : base.expand = .ok inner) :
      ExpandsTo (power base exponent) inner
  | unrolled {base inner : Expr} {exponent : Fraction}
      (nonzero : exponent ≠ 0)
      (notOne : exponent ≠ 1)
      (found : base.expand = .ok inner) :
      ExpandsTo (power base exponent) (Expand.unroll inner exponent)

theorem expandsTo_of_expand_eq_ok
    {expr result : Expr}
    (success : expr.expand = .ok result) :
    ExpandsTo expr result := by
  cases expr with
  | number value =>
      rw [expand] at success
      cases success
      exact .number value
  | symbol name =>
      rw [expand] at success
      cases success
      exact .symbol name
  | sum operands =>
      rw [expand, expandAll_eq_mapM] at success
      obtain ⟨results, mapped, last⟩ := except_bind_eq_ok success
      cases last
      exact .sum mapped
  | product operands =>
      rw [expand, expandAll_eq_mapM] at success
      obtain ⟨results, mapped, last⟩ := except_bind_eq_ok success
      cases last
      exact .product mapped
  | power base exponent =>
      rw [expand] at success
      by_cases isZero : exponent = 0
      · rw [if_pos isZero] at success
        obtain ⟨_, _, last⟩ := except_bind_eq_ok success
        cases last
        exact .zero base isZero
      · rw [if_neg isZero] at success
        obtain ⟨inner, found, last⟩ := except_bind_eq_ok success
        by_cases isOne : exponent = 1
        · rw [if_pos isOne] at last
          cases last
          exact .one isOne found
        · rw [if_neg isOne] at last
          cases last
          exact .unrolled isZero isOne found

end Expr
end ExactAlgebra
