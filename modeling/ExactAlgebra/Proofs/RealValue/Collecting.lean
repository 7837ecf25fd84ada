import ExactAlgebra.Proofs.RealValue.Basic
import ExactAlgebra.Proofs.Simplify.Factors
import ExactAlgebra.Proofs.Simplify.Terms

/-!
# Collecting keeps the real values of positive expressions

The coefficients of positive terms are positive and add up to positive ones, so no
term cancels. The exponents of a base may well cancel or be fractions: the laws of
real powers hold because the base is positive.
-/

namespace ExactAlgebra
namespace Simplify

open ExactAlgebra.Expr

/-! ## Constants -/

section Constants

variable (assignment : Symbol → ℝ)

theorem eval_eq_realValue_of_isNumber {operand : Expr} (isNumber : operand.isNumber = true) :
    operand.eval assignment = some (operand.realValue assignment) := by
  cases operand with
  | number value => rw [eval_number, realValue_number, eq_ratCast]
  | _ => cases isNumber

/-- A total is the constant term and the total of the other terms. -/
theorem sum_eq_constantTerm_add (operands : List Expr) :
    (operands.map (realValue assignment)).sum =
      ((constantTerm operands).toRat : ℝ) +
        ((operands.filter (!·.isNumber)).map (realValue assignment)).sum := by
  have constants := strictSum_constants assignment operands
  rw [strictSum_map_eq_some fun operand member =>
    eval_eq_realValue_of_isNumber assignment (List.mem_filter.mp member).2, eq_ratCast] at constants
  rw [← Option.some.inj constants, ← List.sum_append, ← List.map_append]
  exact ((List.filter_append_perm (·.isNumber) operands).map (realValue assignment)).sum_eq.symm

/-- A product is the constant factor times the product of the other factors. -/
theorem prod_eq_constantFactor_mul (operands : List Expr) :
    (operands.map (realValue assignment)).prod =
      ((constantFactor operands).toRat : ℝ) *
        ((operands.filter (!·.isNumber)).map (realValue assignment)).prod := by
  have constants := strictProduct_constants assignment operands
  rw [strictProduct_map_eq_some fun operand member =>
    eval_eq_realValue_of_isNumber assignment (List.mem_filter.mp member).2, eq_ratCast] at constants
  rw [← Option.some.inj constants, ← List.prod_append, ← List.map_append]
  exact ((List.filter_append_perm (·.isNumber) operands).map (realValue assignment)).prod_eq.symm

end Constants

variable {operands : List Expr}

theorem value?_pos
    (positive : ∀ operand ∈ operands, Positive operand) :
    ∀ value ∈ operands.filterMap value?, 0 < value.toRat := by
  intro value member
  obtain ⟨operand, inOperands, found⟩ := List.mem_filterMap.mp member
  cases positive operand inOperands with
  | number constant constantPositive =>
      cases found
      exact constantPositive
  | _ => cases found

theorem constantTerm_nonneg (positive : ∀ operand ∈ operands, Positive operand) :
    0 ≤ (constantTerm operands).toRat := by
  rw [constantTerm, toRat_foldl_add, Fraction.toRat_zero, zero_add]
  exact List.sum_nonneg (List.forall_mem_map.mpr fun value member =>
    (value?_pos positive value member).le)

theorem constantFactor_pos (positive : ∀ operand ∈ operands, Positive operand) :
    0 < (constantFactor operands).toRat := by
  rw [constantFactor, toRat_foldl_mul, Fraction.toRat_one, one_mul]
  exact List.prod_pos (List.forall_mem_map.mpr (value?_pos positive))

/-! ## Terms -/

section Terms

variable (assignment : Symbol → ℝ)

/-- The real value of a term with a coefficient. -/
noncomputable def realTermValue (entry : Expr × Fraction) : ℝ :=
  (entry.2.toRat : ℝ) * entry.1.realValue assignment

theorem realTermValue_splitTerm (term : Expr) :
    realTermValue assignment (splitTerm term) = term.realValue assignment := by
  unfold splitTerm
  split
  · rw [realTermValue, realValue_productOfFactors, realValue_product, List.map_cons,
      List.prod_cons, realValue_number]
  · simp [realTermValue]

theorem realValue_scale (coefficient : Fraction) (term : Expr) :
    (scale coefficient term).realValue assignment =
      realTermValue assignment (term, coefficient) := by
  unfold scale
  split
  · simp [realValue_productOf, realTermValue, mul_comm]
  · simp [realValue_productOf, realTermValue]

/-- Only terms with the value zero are dropped. -/
theorem sum_filterMap_collectedTerm? (tally : Tally Expr) :
    ((tally.filterMap collectedTerm?).map (realValue assignment)).sum =
      (tally.map (realTermValue assignment)).sum := by
  induction tally with
  | nil => rfl
  | cons entry rest hypothesis =>
      obtain ⟨key, coefficient⟩ := entry
      rw [List.map_cons, List.sum_cons, ← hypothesis, List.filterMap_cons, collectedTerm?]
      dsimp only
      by_cases isZero : coefficient = 0
      · simp [isZero, realTermValue]
      · rw [if_neg isZero]
        by_cases isOne : coefficient = 1
        · simp [isOne, realTermValue]
        · simp [isOne, realValue_scale]

/-- A tally of coefficients keeps the total of the terms. -/
theorem sum_termTally (operands : List Expr) :
    ((termTally operands).map (realTermValue assignment)).sum =
      ((operands.filter (!·.isNumber)).map (realValue assignment)).sum := by
  have tallied :
      ((termTally operands).map (realTermValue assignment)).sum =
        (((operands.filter (!·.isNumber)).map splitTerm).map (realTermValue assignment)).sum := by
    refine Tally.foldr_ofEntries (· + ·) 0 fun key _ first second => ?_
    simp only [realTermValue, Fraction.toRat_add, Rat.cast_add, add_mul]
  rw [tallied, List.map_map]
  exact congrArg List.sum (List.map_congr_left fun term _ => realTermValue_splitTerm assignment term)

end Terms

/-- The entry of a positive term: the term and the coefficient are positive. -/
theorem positive_splitTerm {term : Expr} (positive : Positive term) :
    Positive (splitTerm term).1 ∧ 0 < (splitTerm term).2.toRat := by
  unfold splitTerm
  split
  · cases positive with
    | product _ positive =>
        obtain ⟨coefficientPositive, restPositive⟩ := List.forall_mem_cons.mp positive
        cases coefficientPositive with
        | number _ coefficientPositive =>
            exact ⟨.productOfFactors restPositive, coefficientPositive⟩
  · exact ⟨positive, one_pos⟩

theorem positive_of_mem_termTally
    (positive : ∀ operand ∈ operands, Positive operand)
    {entry : Expr × Fraction}
    (member : entry ∈ termTally operands) :
    Positive entry.1 ∧ 0 < entry.2.toRat := by
  refine @Tally.forall_mem_ofEntries _ _
    (fun key total => Positive key ∧ 0 < total.toRat) _ ?_ ?_ entry member
  · intro given inEntries
    obtain ⟨term, inOperands, rfl⟩ := List.mem_map.mp inEntries
    exact positive_splitTerm (positive term (List.mem_of_mem_filter inOperands))
  · rintro key first second ⟨keyPositive, firstPositive⟩ ⟨_, secondPositive⟩
    rw [Fraction.toRat_add]
    exact ⟨keyPositive, add_pos firstPositive secondPositive⟩

theorem positive_scale
    {coefficient : Fraction}
    {term : Expr}
    (coefficientPositive : 0 < coefficient.toRat)
    (positive : Positive term) :
    Positive (scale coefficient term) := by
  have number : Positive (number coefficient) := .number coefficient coefficientPositive
  unfold scale
  split
  · cases positive with
    | product operands positive =>
        refine .productOf (List.forall_mem_append.mpr ⟨positive, ?_⟩)
        exact List.forall_mem_singleton.mpr number
  · refine .productOf (List.forall_mem_cons.mpr ⟨number, ?_⟩)
    exact List.forall_mem_singleton.mpr positive

theorem positive_of_collectedTerm?_eq_some
    {entry : Expr × Fraction}
    {term : Expr}
    (entryPositive : Positive entry.1 ∧ 0 < entry.2.toRat)
    (collected : collectedTerm? entry = some term) :
    Positive term := by
  rcases cases_of_collectedTerm?_eq_some collected with ⟨_, rfl⟩ | ⟨_, _, rfl⟩
  · exact entryPositive.1
  · exact positive_scale entryPositive.2 entryPositive.1

/-- Collecting positive terms gives a positive expression with their total. -/
theorem collectSum_of_positive
    {assignment : Symbol → ℝ}
    (assigned : ∀ name, 0 < assignment name)
    (nonempty : operands ≠ [])
    (positive : ∀ operand ∈ operands, Positive operand) :
    Positive (collectSum operands) ∧
      (collectSum operands).realValue assignment = (operands.map (realValue assignment)).sum := by
  have terms : ∀ term ∈ (termTally operands).filterMap collectedTerm?, Positive term := by
    intro term member
    obtain ⟨entry, inTally, collected⟩ := List.mem_filterMap.mp member
    exact positive_of_collectedTerm?_eq_some (positive_of_mem_termTally positive inTally) collected
  have value : (collectSum operands).realValue assignment =
      (operands.map (realValue assignment)).sum := by
    rw [collectSum, realValue_sumOfTerms, sum_eq_constantTerm_add assignment operands,
      ← sum_termTally assignment operands, ← sum_filterMap_collectedTerm?]
    split
    · rename_i isZero
      rw [isZero, Fraction.toRat_zero, Rat.cast_zero, zero_add]
    · rw [List.map_cons, List.sum_cons, realValue_number]
  -- The total is not zero, so at least one term is left.
  have nonzero : (collectSum operands).realValue assignment ≠ 0 := by
    rw [value, ← realValue_sum]
    exact ((Positive.sum operands nonempty positive).realValue_pos assigned).ne'
  refine ⟨.sumOfTerms nonzero ?_, value⟩
  split
  · exact terms
  · rename_i nonzeroConstant
    refine List.forall_mem_cons.mpr ⟨.number _ ?_, terms⟩
    exact (constantTerm_nonneg positive).lt_of_ne'
      (mt Fraction.toRat_eq_zero_iff.mp nonzeroConstant)

/-! ## Factors -/

section Factors

variable (assignment : Symbol → ℝ)

/-- The real value of a base with an exponent. -/
noncomputable def realFactorValue (entry : Expr × Fraction) : ℝ :=
  entry.1.realValue assignment ^ (entry.2.toRat : ℝ)

theorem realFactorValue_splitFactor (factor : Expr) :
    realFactorValue assignment (splitFactor factor) = factor.realValue assignment := by
  unfold splitFactor
  split
  · rw [realFactorValue, realValue_power]
  · simp [realFactorValue]

theorem realValue_assembleProduct (coefficient : Fraction) (operands : List Expr) :
    (assembleProduct coefficient operands).realValue assignment =
      (coefficient.toRat : ℝ) * (operands.map (realValue assignment)).prod := by
  unfold assembleProduct
  split
  · rename_i isZero
    rw [realValue_zero, isZero, Fraction.toRat_zero, Rat.cast_zero, zero_mul]
  · split
    · rename_i isOne
      rw [realValue_productOfFactors, isOne, Fraction.toRat_one, Rat.cast_one, one_mul]
    · rw [realValue_productOfFactors, List.map_append, List.prod_append, List.map_singleton,
        List.prod_singleton, realValue_number, mul_comm]

end Factors

theorem positive_splitFactor {factor : Expr} (positive : Positive factor) :
    Positive (splitFactor factor).1 := by
  unfold splitFactor
  split
  · cases positive with
    | power base exponent positive => exact positive
  · exact positive

theorem positive_of_mem_keys_factorTally
    (positive : ∀ operand ∈ operands, Positive operand)
    {base : Expr}
    (member : base ∈ Tally.keys ((operands.filter (!·.isNumber)).map splitFactor)) :
    Positive base := by
  obtain ⟨entry, inEntries, rfl⟩ := List.mem_map.mp member
  obtain ⟨factor, inOperands, rfl⟩ := List.mem_map.mp inEntries
  exact positive_splitFactor (positive factor (List.mem_of_mem_filter inOperands))

theorem positive_assembleProduct
    {coefficient : Fraction}
    (coefficientPositive : 0 < coefficient.toRat)
    (positive : ∀ operand ∈ operands, Positive operand) :
    Positive (assembleProduct coefficient operands) := by
  unfold assembleProduct
  split
  · rename_i isZero
    exact absurd (Fraction.toRat_eq_zero_iff.mpr isZero) coefficientPositive.ne'
  · split
    · exact .productOfFactors positive
    · refine .productOfFactors (List.forall_mem_append.mpr ⟨positive, ?_⟩)
      exact List.forall_mem_singleton.mpr (.number _ coefficientPositive)

variable {assignment : Symbol → ℝ} (assigned : ∀ name, 0 < assignment name)

include assigned in
/-- A tally of exponents keeps the product of positive factors. -/
theorem prod_factorTally (positive : ∀ operand ∈ operands, Positive operand) :
    ((factorTally operands).map (realFactorValue assignment)).prod =
      ((operands.filter (!·.isNumber)).map (realValue assignment)).prod := by
  have tallied :
      ((factorTally operands).map (realFactorValue assignment)).prod =
        (((operands.filter (!·.isNumber)).map splitFactor).map
          (realFactorValue assignment)).prod := by
    refine Tally.foldr_ofEntries (· * ·) 1 fun key given first second => ?_
    have keyPositive := (positive_of_mem_keys_factorTally positive given).realValue_pos assigned
    simp only [realFactorValue, Fraction.toRat_add, Rat.cast_add, Real.rpow_add keyPositive]
  rw [tallied, List.map_map]
  exact congrArg List.prod
    (List.map_congr_left fun factor _ => realFactorValue_splitFactor assignment factor)

variable {simplifyPart : Expr → Except RewriteError Expr}
variable (keeps : KeepsPositiveValues assignment simplifyPart)

include keeps in
/-- The factors that a tallied exponent leaves are positive, with the value of the
entry. -/
theorem collectedFactor_of_positive
    {entry : Expr × Fraction}
    {factors : List Expr}
    (positive : Positive entry.1)
    (collected : collectedFactor simplifyPart entry = .ok factors) :
    (∀ factor ∈ factors, Positive factor) ∧
      (factors.map (realValue assignment)).prod = realFactorValue assignment entry := by
  cases collectsTo_of_collectedFactor_eq_ok collected with
  | zero isZero => exact ⟨nofun, by simp [realFactorValue, isZero]⟩
  | one isOne =>
      exact ⟨List.forall_mem_singleton.mpr positive, by simp [realFactorValue, isOne]⟩
  | power nonzero notOne found =>
      obtain ⟨factorPositive, value⟩ := keeps _ _ (.power entry.1 entry.2 positive) found
      refine ⟨List.forall_mem_singleton.mpr factorPositive, ?_⟩
      rw [List.map_singleton, List.prod_singleton, value, realValue_power, realFactorValue]

include keeps in
/-- Collecting the factors of a tally with positive keys. -/
theorem prod_flatten_of_positive
    {tally : Tally Expr}
    {collected : List (List Expr)}
    (positive : ∀ entry ∈ tally, Positive entry.1)
    (success : tally.mapM (collectedFactor simplifyPart) = .ok collected) :
    (∀ factor ∈ collected.flatten, Positive factor) ∧
      (collected.flatten.map (realValue assignment)).prod =
        (tally.map (realFactorValue assignment)).prod := by
  have each := forall₂_of_mapM_eq_ok success fun entry member factors =>
    collectedFactor_of_positive keeps (positive entry member)
  clear success positive
  induction each with
  | nil => exact ⟨nofun, rfl⟩
  | cons here _ hypothesis =>
      rw [List.flatten_cons, List.forall_mem_append, List.map_append, List.prod_append, here.2,
        hypothesis.2, List.map_cons, List.prod_cons]
      exact ⟨⟨here.1, hypothesis.1⟩, rfl⟩

include assigned keeps in
/-- Collecting positive factors gives a positive expression with their product. -/
theorem collectProduct_of_positive
    {result : Expr}
    (positive : ∀ operand ∈ operands, Positive operand)
    (success : collectProduct simplifyPart operands = .ok result) :
    Positive result ∧
      result.realValue assignment = (operands.map (realValue assignment)).prod := by
  have constant := constantFactor_pos positive
  cases multipliesTo_of_collectProduct_eq_ok success with
  | zero isZero => exact absurd (Fraction.toRat_eq_zero_iff.mpr isZero) constant.ne'
  | assembled nonzero mapped =>
      have keys : ∀ entry ∈ factorTally operands, Positive entry.1 := fun entry member =>
        positive_of_mem_keys_factorTally positive
          (Tally.mem_keys_ofEntries.mp (List.mem_map_of_mem member))
      obtain ⟨factors, value⟩ := prod_flatten_of_positive keeps keys mapped
      constructor
      · refine positive_assembleProduct ?_ fun factor member =>
          factors factor (List.mem_of_mem_filter member)
        rw [Fraction.toRat_mul]
        exact mul_pos constant (constantFactor_pos factors)
      · rw [realValue_assembleProduct, Fraction.toRat_mul, Rat.cast_mul, mul_assoc,
          ← prod_eq_constantFactor_mul, value, prod_factorTally assigned positive,
          ← prod_eq_constantFactor_mul]

end Simplify
end ExactAlgebra
