import ExactAlgebra.Proofs.CanonicalOrder
import ExactAlgebra.Proofs.FailingMap
import ExactAlgebra.Proofs.Simplify.Terms

/-!
# Settled expressions

An expression is settled when no rule of simplification applies to it or to any of
its parts. This module defines the notion by the shape of the expression alone. In
the canonical order the one constant of a settled sum or product comes first, and
building a sum or a product from arranged operands keeps them as they are.
-/

namespace ExactAlgebra
namespace Expr

/-- No rule of simplification applies. Sums hold no sums, at most one constant,
which is not zero, and no two terms that differ in their coefficients only.
Products hold no products, at most one constant, which is neither zero nor one,
and no two powers of the same base. Powers have a base that is no power and an
exponent other than zero and one, and a power of a constant is irrational. -/
inductive Settled : Expr → Prop
  | number (value : Fraction) : Settled (number value)
  | symbol (name : Symbol) : Settled (symbol name)
  | sum
      (operands : List Expr)
      (several : 2 ≤ operands.length)
      (ordered : operands.Pairwise (le · ·))
      (settled : ∀ operand ∈ operands, Settled operand)
      (flat : ∀ operand ∈ operands, operand.kind ≠ .sum)
      (oneConstant : (operands.filter (·.isNumber)).length ≤ 1)
      (nonzero : 0 ∉ operands)
      (distinct : ((operands.filter (!·.isNumber)).map
        fun term => (Simplify.splitTerm term).1).Nodup) :
      Settled (sum operands)
  | product
      (operands : List Expr)
      (several : 2 ≤ operands.length)
      (ordered : operands.Pairwise (le · ·))
      (settled : ∀ operand ∈ operands, Settled operand)
      (flat : ∀ operand ∈ operands, operand.kind ≠ .product)
      (oneConstant : (operands.filter (·.isNumber)).length ≤ 1)
      (nonzero : 0 ∉ operands)
      (notOne : 1 ∉ operands)
      (distinct : ((operands.filter (!·.isNumber)).map
        fun factor => (Simplify.splitFactor factor).1).Nodup) :
      Settled (product operands)
  | power
      (base : Expr)
      (exponent : Fraction)
      (settled : Settled base)
      (flat : base.kind ≠ .power)
      (nonzero : exponent ≠ 0)
      (notOne : exponent ≠ 1)
      (irrational : ∀ value, base = number value →
        0 < exponent.num ∧ value.pow exponent = .ok none) :
      Settled (power base exponent)

/-! ## Constants in arranged lists -/

theorem exists_eq_number {expr : Expr} (constant : expr.isNumber = true) :
    ∃ value, expr = number value := by
  cases expr with
  | number value => exact ⟨value, rfl⟩
  | _ => cases constant

/-- Constants come first in the canonical order. -/
theorem le_number_iff {expr : Expr} (notNumber : expr.isNumber = false) (value : Fraction) :
    le (number value) expr = true ∧ le expr (number value) = false := by
  cases expr with
  | number other => cases notNumber
  | _ => exact ⟨rfl, rfl⟩

theorem filter_isNumber_eq_nil_iff {operands : List Expr} :
    operands.filter (·.isNumber) = [] ↔ ∀ operand ∈ operands, operand.isNumber = false := by
  simp

theorem filter_not_isNumber_eq_self {operands : List Expr}
    (noConstants : ∀ operand ∈ operands, operand.isNumber = false) :
    operands.filter (!·.isNumber) = operands := by
  rw [List.filter_eq_self]
  intro operand member
  simp [noConstants operand member]

/-- An ordered list without a constant in front has no constants. -/
theorem noConstants_of_head
    {head : Expr}
    {tail : List Expr}
    (ordered : (head :: tail).Pairwise (le · ·))
    (notNumber : head.isNumber = false) :
    ∀ operand ∈ head :: tail, operand.isNumber = false := by
  refine List.forall_mem_cons.mpr ⟨notNumber, fun operand inTail => ?_⟩
  have below := (List.pairwise_cons.mp ordered).1 operand inTail
  cases constant : operand.isNumber with
  | false => rfl
  | true =>
      obtain ⟨value, rfl⟩ := exists_eq_number constant
      rw [(le_number_iff notNumber value).2] at below
      cases below

/-- The collected factors are no constants, and they come from entries of the tally. -/
theorem exists_of_mem_collected
    {simplifyPart : Expr → Except RewriteError Expr}
    {tally : Tally Expr}
    {collected : List (List Expr)}
    (mapped : tally.mapM (Simplify.collectedFactor simplifyPart) = .ok collected)
    {factor : Expr}
    (member : factor ∈ collected.flatten.filter (!·.isNumber)) :
    factor.isNumber = false ∧ ∃ entry ∈ tally, ∃ factors,
      Simplify.collectedFactor simplifyPart entry = .ok factors ∧ factor ∈ factors := by
  obtain ⟨belongs, notNumber⟩ := List.mem_filter.mp member
  obtain ⟨factors, inCollected, inFactors⟩ := List.mem_flatten.mp belongs
  obtain ⟨entry, inTally, found⟩ := exists_of_mem_mapM mapped inCollected
  exact ⟨by simpa using notNumber, entry, inTally, factors, found, inFactors⟩

/-- A term without constants among its factors has no coefficient to split off. -/
theorem splitTerm_of_noConstants
    {term : Expr}
    (noConstants : ∀ factor ∈ term.factors, factor.isNumber = false) :
    Simplify.splitTerm term = (term, 1) := by
  unfold Simplify.splitTerm
  split
  · cases noConstants _ List.mem_cons_self
  · rfl

/-- An ordered list with one constant at most has none, or has it in front. -/
theorem constants_cases
    {operands : List Expr}
    (ordered : operands.Pairwise (le · ·))
    (oneConstant : (operands.filter (·.isNumber)).length ≤ 1) :
    (∀ operand ∈ operands, operand.isNumber = false) ∨
      ∃ value rest, operands = number value :: rest ∧
        ∀ operand ∈ rest, operand.isNumber = false := by
  cases operands with
  | nil => exact Or.inl nofun
  | cons head tail =>
      cases constant : head.isNumber with
      | true =>
          obtain ⟨value, rfl⟩ := exists_eq_number constant
          refine Or.inr ⟨value, tail, rfl, ?_⟩
          have shorter : (tail.filter (·.isNumber)).length + 1 ≤ 1 := oneConstant
          exact filter_isNumber_eq_nil_iff.mp (List.eq_nil_of_length_eq_zero (by omega))
      | false => exact Or.inl (noConstants_of_head ordered constant)

/-! ## Building from arranged operands -/

theorem sumOfTerms_eq_sum
    {terms operands : List Expr}
    (perm : terms.Perm operands)
    (several : 2 ≤ operands.length)
    (ordered : operands.Pairwise (le · ·)) :
    sumOfTerms terms = sum operands := by
  have length := perm.length_eq
  match terms with
  | [] => simp at length; omega
  | [_] => simp at length; omega
  | first :: second :: others =>
      exact congrArg sum (arrange_eq_of_perm perm ordered)

theorem productOfFactors_eq_product
    {factors operands : List Expr}
    (perm : factors.Perm operands)
    (several : 2 ≤ operands.length)
    (ordered : operands.Pairwise (le · ·)) :
    productOfFactors factors = product operands := by
  have length := perm.length_eq
  match factors with
  | [] => simp at length; omega
  | [_] => simp at length; omega
  | first :: second :: others =>
      exact congrArg product (arrange_eq_of_perm perm ordered)

theorem flatMap_summands_eq_self
    {operands : List Expr}
    (flat : ∀ operand ∈ operands, operand.kind ≠ .sum) :
    operands.flatMap summands = operands := by
  rw [List.flatMap_congr fun operand member => summands_eq_singleton (flat operand member)]
  exact List.flatMap_singleton' operands

theorem flatMap_factors_eq_self
    {operands : List Expr}
    (flat : ∀ operand ∈ operands, operand.kind ≠ .product) :
    operands.flatMap factors = operands := by
  rw [List.flatMap_congr fun operand member => factors_eq_singleton (flat operand member)]
  exact List.flatMap_singleton' operands

end Expr

namespace Simplify

open ExactAlgebra.Expr

/-- A coefficient joins the factors of its term. -/
theorem scale_eq (coefficient : Fraction) (term : Expr) :
    scale coefficient term = productOf (term.factors ++ [number coefficient]) := by
  cases term with
  | product operands => rfl
  | _ => exact productOf_perm (.swap _ _ _)

/-- A coefficient that comes before all factors is put in front of them. -/
theorem scale_eq_product
    {coefficient : Fraction}
    {term : Expr}
    (ordered : (number coefficient :: term.factors).Pairwise (le · ·)) :
    scale coefficient term = product (number coefficient :: term.factors) := by
  rw [scale_eq]
  exact congrArg product (arrange_eq_of_perm List.perm_append_comm ordered)

end Simplify
end ExactAlgebra
