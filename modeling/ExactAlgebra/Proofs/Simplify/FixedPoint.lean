import ExactAlgebra.Proofs.Simplify.Factors
import ExactAlgebra.Proofs.Simplify.Parts

/-!
# Settled expressions are fixed points

Simplification leaves settled expressions as they are: the operands are settled,
so their tally is the list of their parts, and every part is given back as the
operand it came from.
-/

namespace ExactAlgebra
namespace Simplify

open ExactAlgebra.Expr

@[simp] theorem value?_number (value : Fraction) : (number value).value? = some value := rfl

theorem value?_eq_none_of_isNumber_eq_false {expr : Expr} (notNumber : expr.isNumber = false) :
    expr.value? = none := by
  simpa [isNumber] using notNumber

theorem filterMap_value?_eq_nil
    {operands : List Expr}
    (noConstants : ∀ operand ∈ operands, operand.isNumber = false) :
    operands.filterMap value? = [] := by
  rw [List.filterMap_eq_nil_iff]
  intro operand member
  exact value?_eq_none_of_isNumber_eq_false (noConstants operand member)

theorem constantTerm_of_noConstants
    {operands : List Expr}
    (noConstants : ∀ operand ∈ operands, operand.isNumber = false) :
    constantTerm operands = 0 := by
  rw [constantTerm, filterMap_value?_eq_nil noConstants]
  rfl

theorem constantFactor_of_noConstants
    {operands : List Expr}
    (noConstants : ∀ operand ∈ operands, operand.isNumber = false) :
    constantFactor operands = 1 := by
  rw [constantFactor, filterMap_value?_eq_nil noConstants]
  rfl

theorem constantTerm_cons
    {rest : List Expr}
    (value : Fraction)
    (noConstants : ∀ operand ∈ rest, operand.isNumber = false) :
    constantTerm (number value :: rest) = value := by
  rw [constantTerm, List.filterMap_cons_some (value?_number value),
    filterMap_value?_eq_nil noConstants]
  apply Fraction.toRat_injective
  simp

theorem constantFactor_cons
    {rest : List Expr}
    (value : Fraction)
    (noConstants : ∀ operand ∈ rest, operand.isNumber = false) :
    constantFactor (number value :: rest) = value := by
  rw [constantFactor, List.filterMap_cons_some (value?_number value),
    filterMap_value?_eq_nil noConstants]
  apply Fraction.toRat_injective
  simp

/-! ## Sums -/

/-- Terms that are given back one by one, and whose parts are distinct, are collected as
they are. -/
theorem filterMap_termTally
    {operands : List Expr}
    (givenBack : ∀ term ∈ operands, term.isNumber = false →
      collectedTerm? (splitTerm term) = some term)
    (distinct : ((operands.filter (!·.isNumber)).map fun term => (splitTerm term).1).Nodup) :
    (termTally operands).filterMap collectedTerm? = operands.filter (!·.isNumber) := by
  have keysNodup : (Tally.keys ((operands.filter (!·.isNumber)).map splitTerm)).Nodup := by
    rwa [Tally.keys, List.map_map]
  rw [termTally, Tally.ofEntries_eq_self keysNodup, List.filterMap_map]
  have each : ∀ term ∈ operands.filter (!·.isNumber),
      (collectedTerm? ∘ splitTerm) term = some term := by
    intro term member
    obtain ⟨inOperands, notNumber⟩ := List.mem_filter.mp member
    exact givenBack term inOperands (by simpa using notNumber)
  rw [List.filterMap_congr each, List.filterMap_some]

/-- Such terms in canonical order, with one constant at most, which is not zero, make
their sum. -/
theorem collectSum_eq_sumOfTerms
    {operands : List Expr}
    (ordered : operands.Pairwise (le · ·))
    (oneConstant : (operands.filter (·.isNumber)).length ≤ 1)
    (nonzero : 0 ∉ operands)
    (givenBack : ∀ term ∈ operands, term.isNumber = false →
      collectedTerm? (splitTerm term) = some term)
    (distinct : ((operands.filter (!·.isNumber)).map fun term => (splitTerm term).1).Nodup) :
    collectSum operands = sumOfTerms operands := by
  rw [collectSum, filterMap_termTally givenBack distinct]
  rcases constants_cases ordered oneConstant with none | ⟨value, rest, rfl, noConstants⟩
  · rw [if_pos (constantTerm_of_noConstants none), filter_not_isNumber_eq_self none]
  · have valueNonzero : value ≠ 0 := by
      rintro rfl
      exact nonzero List.mem_cons_self
    rw [constantTerm_cons value noConstants, if_neg valueNonzero,
      List.filter_cons_of_neg (by simp [isNumber]), filter_not_isNumber_eq_self noConstants]

/-- Collecting the operands of a settled sum gives the sum. -/
theorem collectSum_of_settled {operands : List Expr} (settledSum : Settled (sum operands)) :
    collectSum operands = sum operands := by
  cases settledSum with
  | sum _ several ordered settled flat oneConstant nonzero distinct =>
      have givenBack : ∀ term ∈ operands, term.isNumber = false →
          collectedTerm? (splitTerm term) = some term := by
        intro term member notNumber
        obtain ⟨part, coefficient, _, split, collected⟩ :=
          exists_isTermPart (settled term member) notNumber
        rw [split, collected]
      rw [collectSum_eq_sumOfTerms ordered oneConstant nonzero givenBack distinct]
      exact sumOfTerms_eq_sum (List.Perm.refl _) several ordered

/-! ## Products -/

/-- A settled factor that simplification leaves as it is is collected as it is. -/
theorem collectedFactor_splitFactor
    {factor : Expr}
    (settled : Settled factor)
    (fixed : factor.simplify = .ok factor) :
    collectedFactor Expr.simplify (splitFactor factor) = .ok [factor] := by
  cases settled with
  | power base exponent baseSettled flat nonzero notOne irrational =>
      rw [splitFactor, collectedFactor, if_neg nonzero, if_neg notOne, fixed]
      rfl
  | _ => rfl

/-- If every tallied exponent leaves one factor that is no constant, these factors and
the constant factor make the product. -/
theorem collectProduct_eq_ok
    {simplifyPart : Expr → Except RewriteError Expr}
    {operands factors : List Expr}
    (nonzero : constantFactor operands ≠ 0)
    (collected : (factorTally operands).mapM (collectedFactor simplifyPart) =
      .ok (factors.map fun factor => [factor]))
    (noConstants : ∀ factor ∈ factors, factor.isNumber = false) :
    collectProduct simplifyPart operands =
      .ok (assembleProduct (constantFactor operands) factors) := by
  have flattened : (factors.map fun factor => [factor]).flatten = factors := by
    rw [← List.flatMap_def, List.flatMap_singleton']
  have timesOne : constantFactor operands * 1 = constantFactor operands := by
    apply Fraction.toRat_injective
    simp
  rw [collectProduct, if_neg nonzero, collected]
  change Except.ok (assembleProduct _ _) = _
  rw [flattened, filter_not_isNumber_eq_self noConstants,
    constantFactor_of_noConstants noConstants, timesOne]

/-- The coefficient and the factors of a settled product make the product. -/
theorem assembleProduct_of_settled
    {operands : List Expr}
    (settledProduct : Settled (product operands)) :
    constantFactor operands ≠ 0 ∧
      assembleProduct (constantFactor operands) (operands.filter (!·.isNumber)) =
        product operands := by
  cases settledProduct with
  | product _ several ordered settled flat oneConstant nonzero notOne distinct =>
      rcases constants_cases ordered oneConstant with none | ⟨value, rest, rfl, restNoConstants⟩
      · rw [constantFactor_of_noConstants none, assembleProduct, if_neg (by decide), if_pos rfl,
          filter_not_isNumber_eq_self none]
        exact ⟨by decide, productOfFactors_eq_product (List.Perm.refl _) several ordered⟩
      · have valueNonzero : value ≠ 0 := by
          rintro rfl
          exact nonzero List.mem_cons_self
        have valueNotOne : value ≠ 1 := by
          rintro rfl
          exact notOne List.mem_cons_self
        rw [constantFactor_cons value restNoConstants, assembleProduct, if_neg valueNonzero,
          if_neg valueNotOne, List.filter_cons_of_neg (by simp [isNumber]),
          filter_not_isNumber_eq_self restNoConstants]
        exact ⟨valueNonzero,
          productOfFactors_eq_product List.perm_append_comm several ordered⟩

/-- Collecting the operands of a settled product gives the product. -/
theorem collectProduct_of_settled
    {operands : List Expr}
    (settledProduct : Settled (product operands))
    (fixed : ∀ operand ∈ operands, operand.simplify = .ok operand) :
    collectProduct Expr.simplify operands = .ok (product operands) := by
  obtain ⟨coefficientNonzero, assembled⟩ := assembleProduct_of_settled settledProduct
  cases settledProduct with
  | product _ several ordered settled flat oneConstant nonzero notOne distinct =>
      have keysNodup : (Tally.keys ((operands.filter (!·.isNumber)).map splitFactor)).Nodup := by
        rwa [Tally.keys, List.map_map]
      have collected : (factorTally operands).mapM (collectedFactor Expr.simplify) =
          .ok ((operands.filter (!·.isNumber)).map fun factor => [factor]) := by
        rw [factorTally, Tally.ofEntries_eq_self keysNodup, mapM_eq_ok_iff,
          List.forall₂_map_left_iff, List.forall₂_map_right_iff, List.forall₂_same]
        intro factor member
        have inOperands := (List.mem_filter.mp member).1
        exact collectedFactor_splitFactor (settled factor inOperands) (fixed factor inOperands)
      rw [collectProduct_eq_ok coefficientNonzero collected, assembled]
      intro factor member
      simpa using (List.mem_filter.mp member).2

/-! ## Powers -/

/-- Raising the base of a settled power gives the power. -/
theorem raise_of_settled
    {base : Expr}
    {exponent : Fraction}
    (simplifyPart : Expr → Except RewriteError Expr)
    (settledPower : Settled (power base exponent)) :
    raise simplifyPart base exponent = .ok (power base exponent) := by
  cases settledPower with
  | power _ _ settled flat nonzero notOne irrational =>
      unfold raise
      rw [if_neg nonzero, if_neg notOne]
      cases base with
      | number value =>
          obtain ⟨positive, none⟩ := irrational value rfl
          dsimp only
          rw [numberPower, none]
          change (if exponent.num < 0 then _ else _) = _
          rw [if_neg (by omega)]
          rfl
      | power => exact absurd rfl flat
      | _ => rfl

end Simplify

namespace Expr

/-- Simplification leaves settled expressions as they are. -/
theorem Settled.simplify_eq {expr : Expr} (settled : Settled expr) :
    expr.simplify = .ok expr := by
  induction expr with
  | number value => rw [simplify_eq_step]; rfl
  | symbol name => rw [simplify_eq_step]; rfl
  | sum operands hypothesis =>
      have whole := Simplify.collectSum_of_settled settled
      cases settled with
      | sum _ _ _ operandsSettled flat =>
          have fixed : operands.mapM simplify = .ok (operands.map id) :=
            mapM_eq_ok_map fun operand member =>
              hypothesis operand member (operandsSettled operand member)
          rw [simplify_eq_step, Simplify.step, fixed, List.map_id]
          change Except.ok (Simplify.collectSum (operands.flatMap summands)) = _
          rw [flatMap_summands_eq_self flat, whole]
  | product operands hypothesis =>
      have whole := Simplify.collectProduct_of_settled settled
      cases settled with
      | product _ _ _ operandsSettled flat =>
          have each : ∀ operand ∈ operands, operand.simplify = .ok operand :=
            fun operand member => hypothesis operand member (operandsSettled operand member)
          have fixed : operands.mapM simplify = .ok (operands.map id) := mapM_eq_ok_map each
          rw [simplify_eq_step, Simplify.step, fixed, List.map_id]
          change Simplify.collectProduct simplify (operands.flatMap factors) = _
          rw [flatMap_factors_eq_self flat, whole each]
  | power base exponent hypothesis =>
      have whole := Simplify.raise_of_settled simplify settled
      cases settled with
      | power _ _ baseSettled =>
          rw [simplify_eq_step, Simplify.step, hypothesis baseSettled]
          exact whole

end Expr
end ExactAlgebra
