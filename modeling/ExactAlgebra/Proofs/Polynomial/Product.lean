import ExactAlgebra.Proofs.Polynomial.Monomial

/-!
# Products of monomials

Simplifying a nested product of constants and variables gives a canonical monomial:
its factors are constants and powers of variables throughout, so the tally of the
exponents has the variables as its keys and positive integers as its totals.
-/

namespace ExactAlgebra
namespace Expr

open Simplify

/-- The factors of a canonical monomial are powers of variables, apart from a
constant. -/
theorem isPower_of_mem_factors
    {exponents : Symbol →₀ ℕ}
    {coefficient : ℚ}
    {factor : Expr}
    (member : factor ∈ (ofMonomial exponents coefficient).factors)
    (notNumber : factor.isNumber = false) :
    IsPower factor := by
  by_cases exponentsZero : exponents = 0
  · rw [exponentsZero, ofMonomial_zero_left] at member
    cases List.mem_singleton.mp member
    cases notNumber
  · obtain ⟨isPart, factorsEq⟩ := isTermPart_ofMonomial_one exponentsZero
    have inPowers (inFactors : factor ∈ (ofMonomial exponents 1).factors) : IsPower factor := by
      rw [factorsEq, (perm_arrange _).mem_iff] at inFactors
      exact isPower_of_mem_powers inFactors
    by_cases isZero : coefficient = 0
    · rw [isZero, ofMonomial_zero_right] at member
      cases List.mem_singleton.mp member
      cases notNumber
    · by_cases isOne : coefficient = 1
      · rw [isOne] at member
        exact inPowers member
      · rw [← scale_ofMonomial_one exponentsZero isZero isOne, isPart.scale_eq] at member
        rcases List.mem_cons.mp member with rfl | inFactors
        · cases notNumber
        · exact inPowers inFactors

/-- The exponents of powers of variables are tallied under the variables. -/
theorem exists_factorTally_eq
    {operands : List Expr}
    (powersOnly : ∀ operand ∈ operands, operand.isNumber = false → IsPower operand) :
    ∃ entries : List (Symbol × ℕ),
      factorTally operands = entries.map (fun entry => (symbol entry.1, .ofInt entry.2)) ∧
        (∀ entry ∈ entries, entry.2 ≠ 0) ∧ (entries.map Prod.fst).Nodup := by
  refine @Tally.exists_ofEntries_eq_map _ _ _ _ symbol (fun exponent : ℕ => .ofInt exponent)
    (fun source => source.2 ≠ 0) (fun _ _ => Expr.symbol.inj) _ ?_ ?_
  · intro entry member
    obtain ⟨operand, inOperands, rfl⟩ := List.mem_map.mp member
    obtain ⟨belongs, notNumber⟩ := List.mem_filter.mp inOperands
    obtain ⟨name, exponent, nonzero, rfl⟩ := powersOnly operand belongs (by simpa using notNumber)
    exact ⟨(name, exponent), nonzero, (splitFactor_ofPower name exponent).symm⟩
  · intro name first second firstNonzero secondNonzero
    refine ⟨first + second, ?_, ?_⟩
    · intro isZero
      exact firstNonzero (Nat.eq_zero_of_add_eq_zero_right isZero)
    · rw [Fraction.ofInt_add, Nat.cast_add]

/-- A tallied exponent of a variable leaves a power of the variable. -/
theorem collectedFactor_symbol {exponent : ℕ} (name : Symbol) (nonzero : exponent ≠ 0) :
    collectedFactor simplify (symbol name, .ofInt exponent) = .ok [ofPower name exponent] := by
  rw [collectedFactor, ofPower]
  dsimp only
  by_cases isOne : exponent = 1
  · subst isOne
    rfl
  · obtain ⟨fractionNonzero, fractionNotOne⟩ := ofInt_natCast_ne nonzero isOne
    have settled := settled_ofPower name nonzero
    rw [ofPower, if_neg isOne] at settled
    rw [if_neg fractionNonzero, if_neg fractionNotOne, if_neg isOne, settled.simplify_eq]
    rfl

/-- Powers of variables with distinct variables are the powers of a monomial. -/
theorem exists_perm_powers
    {entries : List (Symbol × ℕ)}
    (distinct : (entries.map Prod.fst).Nodup)
    (nonzero : ∀ entry ∈ entries, entry.2 ≠ 0) :
    ∃ exponents, (entries.map fun entry => ofPower entry.1 entry.2).Perm (powers exponents) := by
  let exponents : Symbol →₀ ℕ := (entries.map fun entry => Finsupp.single entry.1 entry.2).sum
  have perm : entries.Perm (exponents.support.toList.map fun name => (name, exponents name)) := by
    apply perm_toList_map distinct nonzero
    · intro name
      exact Finsupp.mem_support_iff
    · intro name
      change Finsupp.applyAddHom name exponents = _
      rw [map_list_sum, List.map_map]
      congr 1
      apply List.map_congr_left
      intro entry _
      exact Finsupp.single_apply
  refine ⟨exponents, ?_⟩
  have mapped := perm.map fun entry => ofPower entry.1 entry.2
  rwa [List.map_map] at mapped

/-- Multiplying constants and powers of variables gives a canonical monomial. -/
theorem exists_collectProduct_eq_ok
    {operands : List Expr}
    (powersOnly : ∀ operand ∈ operands, operand.isNumber = false → IsPower operand) :
    ∃ exponents coefficient,
      collectProduct simplify operands = .ok (ofMonomial exponents coefficient) := by
  obtain ⟨entries, tallied, nonzero, distinct⟩ := exists_factorTally_eq powersOnly
  obtain ⟨exponents, perm⟩ := exists_perm_powers distinct nonzero
  have collected : (factorTally operands).mapM (collectedFactor simplify) =
      .ok ((entries.map fun entry => ofPower entry.1 entry.2).map fun factor => [factor]) := by
    rw [tallied, List.map_map, mapM_eq_ok_iff, List.forall₂_map_left_iff,
      List.forall₂_map_right_iff, List.forall₂_same]
    intro entry member
    exact collectedFactor_symbol entry.1 (nonzero entry member)
  by_cases isZero : constantFactor operands = 0
  · exact ⟨0, 0, by rw [collectProduct, if_pos isZero, ofMonomial_zero_right]⟩
  · refine ⟨exponents, (constantFactor operands).toRat, ?_⟩
    rw [collectProduct_eq_ok isZero collected, assembleProduct_perm _ perm]
    · rfl
    · exact List.forall_mem_map.mpr fun entry _ => isNumber_ofPower entry.1 entry.2

/-- Simplifying a nested product of constants and variables gives a canonical
monomial. -/
theorem IsMonomial.exists_simplify_eq_ok {expr : Expr} (monomial : IsMonomial expr) :
    ∃ exponents coefficient, expr.simplify = .ok (ofMonomial exponents coefficient) := by
  induction monomial with
  | number value =>
      refine ⟨0, value.toRat, ?_⟩
      rw [ofMonomial_zero_left, (Settled.number value).simplify_eq, Fraction.ofRat_toRat]
  | symbol name =>
      refine ⟨Finsupp.single name 1, 1, ?_⟩
      have single : powers (Finsupp.single name 1) = [Expr.symbol name] := by
        rw [powers, Finsupp.support_single name one_ne_zero]
        simp [ofPower]
      rw [ofMonomial_one, productOfFactors_perm (perm_arrange _), single,
        (Settled.symbol name).simplify_eq]
      rfl
  | product operands _ hypothesis =>
      choose! exponents coefficient success using hypothesis
      rw [simplify_eq_step, step, mapM_eq_ok_map success]
      apply exists_collectProduct_eq_ok
      intro factor member notNumber
      obtain ⟨part, inParts, inFactors⟩ := List.mem_flatMap.mp member
      obtain ⟨operand, _, rfl⟩ := List.mem_map.mp inParts
      exact isPower_of_mem_factors inFactors notNumber

end Expr
end ExactAlgebra
