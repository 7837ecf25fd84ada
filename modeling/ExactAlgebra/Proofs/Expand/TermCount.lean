import ExactAlgebra.Proofs.Polynomial.Expanded
import ExactAlgebra.Proofs.Simplify.Regular

/-!
# The terms of an expanded polynomial

Expansion multiplies a polynomial out completely and merges nothing. A sum has the terms
of all its operands. A product has one term for each choice of a term from every operand,
and a power one for each choice of a term from every copy of its base. So the number of
terms follows from the shape of the expression alone: numbers of terms are added up for
sums, multiplied for products, and raised to the exponent for powers.
-/

namespace ExactAlgebra
namespace Expr

/-! ## The terms of what is built -/

@[simp] theorem length_summands_sumOf (terms : List Expr) :
    (sumOf terms).summands.length = terms.length :=
  Sorting.length_sort le terms

/-- A sum has the terms that it is built from. There has to be one at least, since a sum
of no terms is the term zero, and a lone term must not be a sum itself. -/
theorem length_summands_sumOfTerms
    {terms : List Expr}
    (nonempty : 0 < terms.length)
    (notSum : ∀ term ∈ terms, term.kind ≠ .sum) :
    (sumOfTerms terms).summands.length = terms.length := by
  match terms with
  | [] => simp at nonempty
  | [term] => rw [sumOfTerms, summands_eq_singleton (notSum term List.mem_cons_self)]
  | first :: second :: others => exact length_summands_sumOf _

end Expr

namespace Expand

open ExactAlgebra.Expr

/-! ## The terms of a product -/

/-- Multiplying two expressions multiplies their numbers of terms. -/
theorem length_summands_distribute
    {left right : Expr}
    (leftPositive : 0 < left.summands.length)
    (rightPositive : 0 < right.summands.length) :
    (distribute left right).summands.length =
      left.summands.length * right.summands.length := by
  have pairs : (left.summands.flatMap fun leftTerm =>
      right.summands.map fun rightTerm => productOf [leftTerm, rightTerm]).length =
        left.summands.length * right.summands.length := by
    simp [List.length_flatMap]
  rw [distribute, length_summands_sumOfTerms, pairs]
  · rw [pairs]
    exact Nat.mul_pos leftPositive rightPositive
  · intro term member
    obtain ⟨leftTerm, _, inProducts⟩ := List.mem_flatMap.mp member
    obtain ⟨rightTerm, _, rfl⟩ := List.mem_map.mp inProducts
    exact Kind.noConfusion

/-- Multiplying any number of expressions multiplies their numbers of terms. -/
theorem length_summands_distributeAll
    {operands : List Expr}
    (positive : ∀ operand ∈ operands, 0 < operand.summands.length) :
    (distributeAll operands).summands.length =
      (operands.map fun operand => operand.summands.length).prod := by
  cases operands with
  | nil => rfl
  | cons first others =>
      rw [distributeAll]
      induction others generalizing first with
      | nil => simp
      | cons second others hypothesis =>
          obtain ⟨firstPositive, restPositive⟩ := List.forall_mem_cons.mp positive
          obtain ⟨secondPositive, othersPositive⟩ := List.forall_mem_cons.mp restPositive
          have product := length_summands_distribute firstPositive secondPositive
          have productPositive : 0 < (distribute first second).summands.length := by
            rw [product]
            exact Nat.mul_pos firstPositive secondPositive
          rw [List.foldl_cons,
            hypothesis _ (List.forall_mem_cons.mpr ⟨productPositive, othersPositive⟩)]
          simp [product, Nat.mul_assoc]

/-! ## The terms of a power -/

/-- Choosing among some elements several times in a row can be done in as many ways as
the power says. -/
theorem length_selections (choices : List α) (count : Nat) :
    (selections choices count).length = choices.length ^ count := by
  induction count with
  | zero => rfl
  | succ count hypothesis =>
      simp [selections, List.length_flatMap, hypothesis, Nat.pow_succ, Nat.mul_comm]

/-- Repeating a sum of monomials raises its number of terms to a power. -/
theorem length_summands_repeated
    {base : Expr}
    (positive : 0 < base.summands.length)
    (expanded : IsExpanded base)
    (count : Nat) :
    (repeated count base).summands.length = base.summands.length ^ count := by
  rw [repeated_eq, length_summands_sumOfTerms, List.length_map, length_selections]
  · rw [List.length_map, length_selections]
    exact Nat.pow_pos positive
  · intro term member
    obtain ⟨choices, selected, rfl⟩ := List.mem_map.mp member
    apply isTermProperty_isMonomial.notSum
    apply isTermProperty_isMonomial.productOfFactors
    exact fun choice inChoices => expanded choice (mem_of_mem_selections selected choice inChoices)

end Expand

namespace Expr

/-! ## What occurs in an expanded polynomial -/

theorem IsMonomial.children {expr : Expr} (monomial : IsMonomial expr) :
    ∀ child ∈ expr.children, IsMonomial child := by
  cases monomial with
  | number value => exact nofun
  | symbol name => exact nofun
  | product operands monomials => exact monomials

theorem IsMonomial.kind_ne_power {expr : Expr} (monomial : IsMonomial expr) :
    expr.kind ≠ .power := by
  cases monomial <;> exact Kind.noConfusion

/-- No power occurs in a sum of monomials, and no sum but the whole. -/
theorem IsExpanded.kind_of_occursIn
    {part result : Expr}
    (expanded : IsExpanded result)
    (occurs : part.OccursIn result) :
    part.kind ≠ .power ∧ (part.kind = .sum → part = result) := by
  have inMonomial {whole : Expr} (monomial : IsMonomial whole) (occurs : part.OccursIn whole) :
      part.kind ≠ .power ∧ part.kind ≠ .sum := by
    have partMonomial := occurs.inherits (fun _ => IsMonomial.children) monomial
    exact ⟨partMonomial.kind_ne_power, isTermProperty_isMonomial.notSum partMonomial⟩
  by_cases isSum : result.kind = .sum
  · cases occurs with
    | refl =>
        refine ⟨?_, fun _ => rfl⟩
        rw [isSum]
        exact Kind.noConfusion
    | child member inChild =>
        cases result with
        | sum operands =>
            have kinds := inMonomial (expanded _ member) inChild
            exact ⟨kinds.1, fun partSum => absurd partSum kinds.2⟩
        | _ => cases isSum
  · have monomial : IsMonomial result := expanded result (by simp [summands_eq_singleton isSum])
    have kinds := inMonomial monomial occurs
    exact ⟨kinds.1, fun partSum => absurd partSum kinds.2⟩

/-! ## Counting terms -/

/-- The number of terms of the expanded expression, if it can be expanded. -/
def expandedTermCount (expr : Expr) : Nat :=
  match expr.expand with
  | .ok result => result.summands.length
  | .error _ => 0

theorem expandedTermCount_eq
    {expr result : Expr}
    (success : expr.expand = .ok result) :
    expr.expandedTermCount = result.summands.length := by
  rw [expandedTermCount, success]

/-- The operands of a sum or a product expand to sums of monomials with one term at least
each. -/
theorem exists_mapM_expand_eq_ok
    {operands : List Expr}
    (wellFormed : ∀ operand ∈ operands, WellFormed operand)
    (polynomials : ∀ operand ∈ operands, IsPolynomial operand) :
    ∃ results, operands.mapM expand = .ok results ∧
      (∀ result ∈ results, 0 < result.summands.length) ∧
        operands.map expandedTermCount = results.map fun result => result.summands.length := by
  have each : ∀ operand ∈ operands, ∃ result,
      operand.expand = .ok result ∧ 0 < result.summands.length := by
    intro operand member
    obtain ⟨result, success, _⟩ := (polynomials operand member).exists_expand_eq_ok
    have resultWellFormed :=
      (Checked.agreesOnWellFormed_expand operand (wellFormed operand member)).meets result success
    exact ⟨result, success, (Checked.wellFormed_summands resultWellFormed).1⟩
  choose! result success positive using each
  refine ⟨operands.map result, mapM_eq_ok_map success, List.forall_mem_map.mpr positive, ?_⟩
  rw [List.map_map]
  exact List.map_congr_left fun operand member => expandedTermCount_eq (success operand member)

/-- A sum has the terms of all its operands. -/
theorem expandedTermCount_sum
    {operands : List Expr}
    (wellFormed : ∀ operand ∈ operands, WellFormed operand)
    (polynomials : ∀ operand ∈ operands, IsPolynomial operand) :
    (sum operands).expandedTermCount = (operands.map expandedTermCount).sum := by
  obtain ⟨results, mapped, _, counts⟩ := exists_mapM_expand_eq_ok wellFormed polynomials
  have success : (sum operands).expand = .ok (sumOf (results.flatMap summands)) := by
    rw [expand, expandAll_eq_mapM, mapped]
    rfl
  rw [expandedTermCount_eq success, length_summands_sumOf, List.length_flatMap, counts]

/-- A product has a term for each choice of a term from every operand. -/
theorem expandedTermCount_product
    {operands : List Expr}
    (wellFormed : ∀ operand ∈ operands, WellFormed operand)
    (polynomials : ∀ operand ∈ operands, IsPolynomial operand) :
    (product operands).expandedTermCount = (operands.map expandedTermCount).prod := by
  obtain ⟨results, mapped, positive, counts⟩ := exists_mapM_expand_eq_ok wellFormed polynomials
  have success : (product operands).expand = .ok (Expand.distributeAll results) := by
    rw [expand, expandAll_eq_mapM, mapped]
    rfl
  rw [expandedTermCount_eq success, Expand.length_summands_distributeAll positive, counts]

/-- A power has a term for each choice of a term from every copy of its base. -/
theorem expandedTermCount_power
    {base : Expr}
    {exponent : Int}
    (positive : 1 ≤ exponent)
    (wellFormed : WellFormed base)
    (polynomial : IsPolynomial base) :
    (power base (.ofInt exponent)).expandedTermCount =
      base.expandedTermCount ^ exponent.natAbs := by
  obtain ⟨result, success, expanded⟩ := polynomial.exists_expand_eq_ok
  have resultWellFormed :=
    (Checked.agreesOnWellFormed_expand base wellFormed).meets result success
  have nonempty := (Checked.wellFormed_summands resultWellFormed).1
  rw [expandedTermCount_eq success, expandedTermCount_eq (expand_power_of_pos positive success)]
  split
  · rename_i isOne
    rw [isOne]
    exact (pow_one _).symm
  · exact Expand.length_summands_repeated nonempty expanded _

/-- Expansion multiplies a polynomial out completely and merges nothing. It succeeds, its
result has no power and no sum but at the root, and the numbers of terms are added up for
sums, multiplied for products, and raised to the exponent for powers. -/
theorem expand_multiplies_out
    {expr : Expr}
    (wellFormed : WellFormed expr)
    (polynomial : IsPolynomial expr) :
    (∃ result, expr.expand = .ok result ∧ expr.expandedTermCount = result.summands.length ∧
        ∀ part, part.OccursIn result →
          part.kind ≠ .power ∧ (part.kind = .sum → part = result)) ∧
      match expr with
      | number _ => expr.expandedTermCount = 1
      | symbol _ => expr.expandedTermCount = 1
      | sum operands => expr.expandedTermCount = (operands.map expandedTermCount).sum
      | product operands => expr.expandedTermCount = (operands.map expandedTermCount).prod
      | power base exponent =>
          expr.expandedTermCount = base.expandedTermCount ^ exponent.num.natAbs := by
  obtain ⟨result, success, expanded⟩ := polynomial.exists_expand_eq_ok
  refine ⟨⟨result, success, expandedTermCount_eq success,
    fun part => expanded.kind_of_occursIn⟩, ?_⟩
  cases polynomial with
  | number value => rfl
  | symbol name => rfl
  | sum operands polynomials =>
      cases wellFormed with
      | sum _ _ _ parts => exact expandedTermCount_sum parts polynomials
  | product operands polynomials =>
      cases wellFormed with
      | product _ _ _ parts => exact expandedTermCount_product parts polynomials
  | power base exponent positive polynomial =>
      cases wellFormed with
      | power _ _ inner => exact expandedTermCount_power positive inner polynomial

/-- The square of `1 + x`, times `y + z`. -/
def squareTimesSum : Expr :=
  product [power (sum [1, symbol .x]) (.ofInt 2), sum [symbol .y, symbol .z]]

/-- The square has four terms and the product eight, though two of those of the square
are like terms. -/
theorem expand_multiplies_out_squareTimesSum :
    WellFormed squareTimesSum ∧ IsPolynomial squareTimesSum ∧
      (∃ result, squareTimesSum.expand = .ok result ∧ result.summands.length = 8 ∧
        ∀ part, part.OccursIn result →
          part.kind ≠ .power ∧ (part.kind = .sum → part = result)) ∧
      squareTimesSum.expandedTermCount =
        ([power (sum [1, symbol .x]) (.ofInt 2), sum [symbol .y, symbol .z]].map
          expandedTermCount).prod := by
  have wellFormed : WellFormed squareTimesSum := by decide +kernel
  have binomial (first second : Expr) (firstLeaf : IsPolynomial first)
      (secondLeaf : IsPolynomial second) : IsPolynomial (sum [first, second]) := by
    refine .sum _ ?_
    simp only [List.forall_mem_cons, firstLeaf, secondLeaf, true_and]
    exact List.forall_mem_nil _
  have square : IsPolynomial (power (sum [1, symbol .x]) (.ofInt 2)) :=
    .power _ 2 (by decide) (binomial _ _ (.number 1) (.symbol .x))
  have polynomial : IsPolynomial squareTimesSum := by
    refine .product _ ?_
    simp only [List.forall_mem_cons, square, binomial _ _ (.symbol .y) (.symbol .z), true_and]
    exact List.forall_mem_nil _
  obtain ⟨⟨result, success, count, kinds⟩, counts⟩ := expand_multiplies_out wellFormed polynomial
  have eight : squareTimesSum.expandedTermCount = 8 := by decide +kernel
  exact ⟨wellFormed, polynomial, ⟨result, success, count.symm.trans eight, kinds⟩, counts⟩

end Expr
end ExactAlgebra
