import ExactAlgebra.Proofs.Simplify.Regular

/-!
# Collected sums and products

A sum is collected if it has no sums among its terms, one constant at most, and no two
terms that differ in their coefficients only; a product likewise, with bases in place of
terms. Simplification collects the operands it is given. But a term whose coefficient
adds up to one is put into the result as it is, even if it is a sum, and so is a base
whose exponent adds up to one, even if it is a product or holds constants. What is
certain of every result are its constants: one per sum, and neither zero nor one among
factors. All else holds exactly when simplifying again changes nothing.
-/

namespace ExactAlgebra
namespace Expr

/-- The direct parts of a settled expression are settled. -/
theorem Settled.children {expr : Expr} (settled : Settled expr) :
    ∀ child ∈ expr.children, Settled child := by
  cases settled with
  | number value => exact nofun
  | symbol name => exact nofun
  | sum _ several ordered operandsSettled => exact operandsSettled
  | product _ several ordered operandsSettled => exact operandsSettled
  | power _ _ baseSettled => exact List.forall_mem_singleton.mpr baseSettled

/-! ## Collected expressions -/

/-- The operands of a sum hold one constant at most, which is not zero, no sum, and no
two terms that are the same apart from their coefficients. -/
structure AreCollectedTerms (operands : List Expr) : Prop where
  oneConstant : (operands.filter (·.isNumber)).length ≤ 1
  nonzero : 0 ∉ operands
  flat : ∀ operand ∈ operands, operand.kind ≠ .sum
  distinct : ((operands.filter (!·.isNumber)).map
    fun term => (Simplify.splitTerm term).1).Nodup

/-- The operands of a product hold one constant at most, which is neither zero nor one,
no product, and no two factors with the same base. -/
structure AreCollectedFactors (operands : List Expr) : Prop where
  oneConstant : (operands.filter (·.isNumber)).length ≤ 1
  nonzero : 0 ∉ operands
  notOne : 1 ∉ operands
  flat : ∀ operand ∈ operands, operand.kind ≠ .product
  distinct : ((operands.filter (!·.isNumber)).map
    fun factor => (Simplify.splitFactor factor).1).Nodup

/-- All sums and products in an expression are collected, at any depth. -/
structure FullyCollected (expr : Expr) : Prop where
  sums : ∀ operands, (sum operands).OccursIn expr → AreCollectedTerms operands
  products : ∀ operands, (product operands).OccursIn expr → AreCollectedFactors operands

theorem FullyCollected.of_occursIn
    {part whole : Expr}
    (collected : FullyCollected whole)
    (occurs : part.OccursIn whole) :
    FullyCollected part where
  sums := fun operands inPart => collected.sums operands (inPart.trans occurs)
  products := fun operands inPart => collected.products operands (inPart.trans occurs)

theorem Settled.fullyCollected {expr : Expr} (settled : Settled expr) :
    FullyCollected expr where
  sums := by
    intro operands occurs
    cases occurs.inherits (fun _ => Settled.children) settled with
    | sum _ several ordered operandsSettled flat oneConstant nonzero distinct =>
        exact ⟨oneConstant, nonzero, flat, distinct⟩
  products := by
    intro operands occurs
    cases occurs.inherits (fun _ => Settled.children) settled with
    | product _ several ordered operandsSettled flat oneConstant nonzero notOne distinct =>
        exact ⟨oneConstant, nonzero, notOne, flat, distinct⟩

/-- A well-formed regular expression that is collected throughout is settled. -/
theorem FullyCollected.settled
    {expr : Expr}
    (collected : FullyCollected expr)
    (wellFormed : WellFormed expr)
    (regular : Regular expr) :
    Settled expr := by
  induction expr with
  | number value => exact .number value
  | symbol name => exact .symbol name
  | sum operands hypothesis =>
      obtain ⟨oneConstant, nonzero, flat, distinct⟩ := collected.sums operands .refl
      cases wellFormed with
      | sum _ several ordered operandsWellFormed =>
          cases regular with
          | sum _ operandsRegular =>
              refine .sum operands several ordered ?_ flat oneConstant nonzero distinct
              intro operand member
              exact hypothesis operand member (collected.of_occursIn (.child member .refl))
                (operandsWellFormed operand member) (operandsRegular operand member)
  | product operands hypothesis =>
      obtain ⟨oneConstant, nonzero, notOne, flat, distinct⟩ := collected.products operands .refl
      cases wellFormed with
      | product _ several ordered operandsWellFormed =>
          cases regular with
          | product _ operandsRegular =>
              refine .product operands several ordered ?_ flat oneConstant nonzero notOne distinct
              intro operand member
              exact hypothesis operand member (collected.of_occursIn (.child member .refl))
                (operandsWellFormed operand member) (operandsRegular operand member)
  | power base exponent hypothesis =>
      cases wellFormed with
      | power _ _ baseWellFormed =>
          cases regular with
          | power _ _ baseRegular flat nonzero notOne irrational =>
              have baseCollected := collected.of_occursIn (.child List.mem_cons_self .refl)
              exact .power base exponent (hypothesis baseCollected baseWellFormed baseRegular)
                flat nonzero notOne irrational

/-! ## Results of simplification -/

/-- Every sum in a result of simplification has one constant at most, which is not
zero, and no product has the factors zero and one. All sums and products are collected
exactly when simplifying the result again changes nothing. -/
theorem collected_of_simplify_eq_ok
    {expr result : Expr}
    (wellFormed : WellFormed expr)
    (success : expr.simplify = .ok result) :
    (∀ operands, (sum operands).OccursIn result →
        (operands.filter (·.isNumber)).length ≤ 1 ∧ 0 ∉ operands) ∧
      (∀ operands, (product operands).OccursIn result → 0 ∉ operands ∧ 1 ∉ operands) ∧
      (FullyCollected result ↔ result.simplify = .ok result) := by
  have regular := regular_of_simplify_eq_ok success
  have resultWellFormed : WellFormed result :=
    (Checked.agreesOnWellFormed_simplify expr wellFormed).meets result success
  refine ⟨?_, ?_, ?_⟩
  · intro operands occurs
    cases regular.of_occursIn occurs with
    | sum _ operandsRegular oneConstant nonzero => exact ⟨oneConstant, nonzero⟩
  · intro operands occurs
    cases regular.of_occursIn occurs with
    | product _ operandsRegular nonzero notOne => exact ⟨nonzero, notOne⟩
  · rw [simplify_eq_self_iff]
    exact ⟨fun collected => collected.settled resultWellFormed regular, Settled.fullyCollected⟩

/-- The sum `x + x + y`, whose like terms are collected. -/
theorem fullyCollected_simplify_likeTerms :
    WellFormed (sumOf [symbol .x, symbol .x, symbol .y]) ∧
      (sumOf [symbol .x, symbol .x, symbol .y]).simplify =
        .ok (sum [symbol .y, product [number (.ofInt 2), symbol .x]]) ∧
      FullyCollected (sum [symbol .y, product [number (.ofInt 2), symbol .x]]) := by
  have wellFormed : WellFormed (sumOf [symbol .x, symbol .x, symbol .y]) := by
    refine .sumOf (by decide) ?_
    simp only [List.forall_mem_cons, WellFormed.symbol, true_and]
    exact List.forall_mem_nil _
  have success : (sumOf [symbol .x, symbol .x, symbol .y]).simplify =
      .ok (sum [symbol .y, product [number (.ofInt 2), symbol .x]]) := by decide +kernel
  have iff := (collected_of_simplify_eq_ok wellFormed success).2.2
  exact ⟨wellFormed, success, iff.mpr (by decide +kernel)⟩

/-- Twice the sum `x + y`, minus that sum, plus `z`. -/
def multiplesOfSum : Expr :=
  sumOf [productOf [number (.ofInt 2), sumOf [symbol .x, symbol .y]],
    productOf [minusOne, sumOf [symbol .x, symbol .y]], symbol .z]

/-- The coefficients of `x + y` add up to one, which leaves a sum among the terms. -/
theorem not_fullyCollected_simplify_multiplesOfSum :
    WellFormed multiplesOfSum ∧
      multiplesOfSum.simplify = .ok (sum [symbol .z, sum [symbol .x, symbol .y]]) ∧
      ¬FullyCollected (sum [symbol .z, sum [symbol .x, symbol .y]]) := by
  refine ⟨?_, by decide +kernel, fun collected => ?_⟩
  · have multiple (coefficient : Fraction) :
        WellFormed (productOf [number coefficient, sumOf [symbol .x, symbol .y]]) := by
      have inner : WellFormed (sumOf [symbol .x, symbol .y]) := by
        refine .sumOf (Nat.le_refl 2) ?_
        simp only [List.forall_mem_cons, WellFormed.symbol, true_and]
        exact List.forall_mem_nil _
      refine .productOf (Nat.le_refl 2) ?_
      simp only [List.forall_mem_cons, WellFormed.number, inner, true_and]
      exact List.forall_mem_nil _
    refine .sumOf (by decide) ?_
    simp only [List.forall_mem_cons, WellFormed.symbol, minusOne, multiple, true_and]
    exact List.forall_mem_nil _
  · have terms := collected.sums _ .refl
    exact terms.flat (sum [symbol .x, symbol .y]) (by simp) rfl

end Expr
end ExactAlgebra
