import ExactAlgebra.Proofs.Expand.KeptProperties
import ExactAlgebra.Proofs.Expand.Value

/-!
# Expanded polynomials

A polynomial is built from constants and variables by sums, products and powers with
positive integer exponents. Expanding it always succeeds, and leaves a sum of
monomials: nested products of constants and variables.
-/

namespace ExactAlgebra
namespace Expr

/-- The expression is built from constants and variables by sums, products and powers
with positive integer exponents. -/
inductive IsPolynomial : Expr → Prop
  | number (value : Fraction) : IsPolynomial (number value)
  | symbol (name : Symbol) : IsPolynomial (symbol name)
  | sum
      (operands : List Expr)
      (polynomials : ∀ operand ∈ operands, IsPolynomial operand) :
      IsPolynomial (sum operands)
  | product
      (operands : List Expr)
      (polynomials : ∀ operand ∈ operands, IsPolynomial operand) :
      IsPolynomial (product operands)
  | power
      (base : Expr)
      (exponent : Int)
      (positive : 1 ≤ exponent)
      (polynomial : IsPolynomial base) :
      IsPolynomial (power base (.ofInt exponent))

/-- The expression is a nested product of constants and variables. -/
inductive IsMonomial : Expr → Prop
  | number (value : Fraction) : IsMonomial (number value)
  | symbol (name : Symbol) : IsMonomial (symbol name)
  | product
      (operands : List Expr)
      (monomials : ∀ operand ∈ operands, IsMonomial operand) :
      IsMonomial (product operands)

/-- The terms of the expression are monomials. -/
def IsExpanded (expr : Expr) : Prop :=
  ∀ term ∈ expr.summands, IsMonomial term

theorem isTermProperty_isMonomial : IsTermProperty IsMonomial where
  number := .number
  product each := .product _ each
  notSum monomial := by cases monomial <;> exact nofun

/-- A positive power expands to the repeated product of its expanded base, and the first
power to the expanded base itself. -/
theorem expand_power_of_pos
    {base inner : Expr}
    {exponent : Int}
    (positive : 1 ≤ exponent)
    (success : base.expand = .ok inner) :
    (power base (.ofInt exponent)).expand =
      .ok (if exponent = 1 then inner else Expand.repeated exponent.natAbs inner) := by
  have nonzero : Fraction.ofInt exponent ≠ 0 := mt Fraction.ofInt_eq_zero_iff.mp (by omega)
  rw [expand, if_neg nonzero, success]
  change Except.ok (if Fraction.ofInt exponent = 1 then inner else _) = _
  by_cases isOne : exponent = 1
  · rw [if_pos isOne, if_pos (Fraction.ofInt_eq_one_iff.mpr isOne)]
  · rw [if_neg isOne, if_neg (mt Fraction.ofInt_eq_one_iff.mp isOne), Expand.unroll,
      if_pos ⟨rfl, positive⟩, Fraction.num_ofInt]

/-- Expanding a polynomial succeeds and leaves a sum of monomials. -/
theorem IsPolynomial.exists_expand_eq_ok {expr : Expr} (polynomial : IsPolynomial expr) :
    ∃ result, expr.expand = .ok result ∧ IsExpanded result := by
  induction polynomial with
  | number value => exact ⟨_, by rw [expand], isTermProperty_isMonomial.alone (.number value)⟩
  | symbol name => exact ⟨_, by rw [expand], isTermProperty_isMonomial.alone (.symbol name)⟩
  | sum operands polynomials hypothesis =>
      choose! result success expanded using hypothesis
      refine ⟨sumOf ((operands.map result).flatMap summands), ?_, fun term inSum => ?_⟩
      · rw [expand, expandAll_eq_mapM, mapM_eq_ok_map success]
        rfl
      · have member := (perm_arrange _).mem_iff.mp inSum
        obtain ⟨part, inParts, inSummands⟩ := List.mem_flatMap.mp member
        obtain ⟨operand, inOperands, rfl⟩ := List.mem_map.mp inParts
        exact expanded operand inOperands term inSummands
  | product operands polynomials hypothesis =>
      choose! result success expanded using hypothesis
      refine ⟨Expand.distributeAll (operands.map result), ?_,
        isTermProperty_isMonomial.distributeAll ?_⟩
      · rw [expand, expandAll_eq_mapM, mapM_eq_ok_map success]
        rfl
      · exact List.forall_mem_map.mpr expanded
  | power base exponent positive _ hypothesis =>
      obtain ⟨result, success, expanded⟩ := hypothesis
      refine ⟨_, expand_power_of_pos positive success, ?_⟩
      split
      · exact expanded
      · exact isTermProperty_isMonomial.repeated expanded _

end Expr
end ExactAlgebra
