import ExactAlgebra.Proofs.Expand.KeptProperties
import ExactAlgebra.Proofs.Fraction.RationalPower
import ExactAlgebra.Proofs.Simplify.Calls
import ExactAlgebra.Proofs.Simplify.Regular

/-!
# The exponents that simplification makes

Simplifying adds up the exponents of equal bases and multiplies the exponents of nested
powers. So it makes exponents that occur nowhere in the expression, but positive exponents
lead to positive ones only. The sum of positive exponents is not zero, and no power with a
positive exponent is undefined. Hence expressions whose exponents are all positive can
always be simplified, and so can all that simplifying them calls for.
-/

namespace ExactAlgebra

/-- The product of positive fractions is positive. -/
theorem Fraction.num_mul_pos
    {left right : Fraction}
    (leftPositive : 0 < left.num)
    (rightPositive : 0 < right.num) :
    0 < (left * right).num := by
  rw [← num_toRat, Rat.num_pos, toRat_mul]
  exact mul_pos (Rat.num_pos.mp leftPositive) (Rat.num_pos.mp rightPositive)

namespace Expr

/-! ## Properties that collecting keeps -/

namespace IsInherited

variable {property : Expr → Prop} (inherited : IsInherited property)
include inherited

theorem splitTerm {term : Expr} (holds : property term) :
    property (Simplify.splitTerm term).1 := by
  unfold Simplify.splitTerm
  split
  · rename_i coefficient rest
    have each := (inherited.product_iff _).mp holds
    exact inherited.productOfFactors (List.forall_mem_cons.mp each).2
  · exact holds

theorem splitFactor {factor : Expr} (holds : property factor) :
    property (Simplify.splitFactor factor).1 := by
  cases factor with
  | power base exponent => exact inherited.base holds
  | _ => exact holds

theorem scale {term : Expr} (coefficient : Fraction) (holds : property term) :
    property (Simplify.scale coefficient term) := by
  have constant := inherited.number coefficient
  unfold Simplify.scale
  split
  · rename_i operands
    refine inherited.productOf (List.forall_mem_append.mpr ⟨?_, ?_⟩)
    · exact (inherited.product_iff operands).mp holds
    · exact List.forall_mem_singleton.mpr constant
  · refine inherited.productOf (List.forall_mem_cons.mpr ⟨constant, ?_⟩)
    exact List.forall_mem_singleton.mpr holds

/-- Adding up terms keeps an inherited property. -/
theorem collectSum {operands : List Expr} (each : ∀ operand ∈ operands, property operand) :
    property (Simplify.collectSum operands) := by
  have parts : ∀ entry ∈ Simplify.termTally operands, property entry.1 :=
    Simplify.forall_mem_termTally fun operand member _ =>
      inherited.splitTerm (each operand member)
  have terms : ∀ term ∈ (Simplify.termTally operands).filterMap Simplify.collectedTerm?,
      property term := by
    intro term member
    obtain ⟨entry, inTally, found⟩ := List.mem_filterMap.mp member
    rcases Simplify.cases_of_collectedTerm?_eq_some found with ⟨_, rfl⟩ | ⟨_, _, rfl⟩
    · exact parts entry inTally
    · exact inherited.scale entry.2 (parts entry inTally)
  unfold Simplify.collectSum
  apply inherited.sumOfTerms
  split
  · exact terms
  · exact List.forall_mem_cons.mpr ⟨inherited.number _, terms⟩

theorem assembleProduct
    {factors : List Expr}
    (coefficient : Fraction)
    (each : ∀ factor ∈ factors, property factor) :
    property (Simplify.assembleProduct coefficient factors) := by
  unfold Simplify.assembleProduct
  split
  · exact inherited.number 0
  · split
    · exact inherited.productOfFactors each
    · apply inherited.productOfFactors
      refine List.forall_mem_append.mpr ⟨each, List.forall_mem_singleton.mpr ?_⟩
      exact inherited.number coefficient

end IsInherited

/-! ## Exponents -/

/-- The exponents of all powers in an expression, at any depth, have a property. -/
def EveryExponent (property : Fraction → Prop) (expr : Expr) : Prop :=
  ∀ base exponent, (power base exponent).OccursIn expr → property exponent

section EveryExponent

variable {property : Fraction → Prop}

theorem EveryExponent.children {expr : Expr} (every : EveryExponent property expr) :
    ∀ child ∈ expr.children, EveryExponent property child :=
  fun _ member base exponent occurs => every base exponent (.child member occurs)

/-- What is no power has no other exponents than its parts. -/
theorem everyExponent_iff {expr : Expr} (notPower : expr.kind ≠ .power) :
    EveryExponent property expr ↔ ∀ child ∈ expr.children, EveryExponent property child := by
  refine ⟨EveryExponent.children, fun each base exponent occurs => ?_⟩
  cases occurs with
  | refl => exact absurd rfl notPower
  | child member inChild => exact each _ member base exponent inChild

theorem everyExponent_power_iff {base : Expr} {exponent : Fraction} :
    EveryExponent property (power base exponent) ↔
      EveryExponent property base ∧ property exponent := by
  constructor
  · intro every
    exact ⟨every.children base List.mem_cons_self, every base exponent .refl⟩
  · rintro ⟨inBase, here⟩ inner innerExponent occurs
    cases occurs with
    | refl => exact here
    | child member inChild =>
        cases List.mem_singleton.mp member
        exact inBase inner innerExponent inChild

theorem isInherited_everyExponent : IsInherited (EveryExponent property) where
  number value := (@everyExponent_iff _ (number value) nofun).mpr (List.forall_mem_nil _)
  sum_iff _ := everyExponent_iff nofun
  product_iff _ := everyExponent_iff nofun
  base every := (everyExponent_power_iff.mp every).1

theorem everyExponent_symbol (name : Symbol) : EveryExponent property (symbol name) :=
  (@everyExponent_iff _ (symbol name) nofun).mpr (List.forall_mem_nil _)

section Decidable

variable [DecidablePred property]

mutual
/-- Whether the exponents of an expression have a property can be computed. -/
def decideEveryExponent : (expr : Expr) → Decidable (EveryExponent property expr)
  | number value => .isTrue (isInherited_everyExponent.number value)
  | symbol name => .isTrue (everyExponent_symbol name)
  | sum operands =>
      have := decideAllEveryExponent operands
      decidable_of_iff (∀ operand ∈ operands, EveryExponent property operand)
        (isInherited_everyExponent.sum_iff operands).symm
  | product operands =>
      have := decideAllEveryExponent operands
      decidable_of_iff (∀ operand ∈ operands, EveryExponent property operand)
        (isInherited_everyExponent.product_iff operands).symm
  | power base exponent =>
      have := decideEveryExponent base
      decidable_of_iff (EveryExponent property base ∧ property exponent)
        everyExponent_power_iff.symm
/-- Whether the exponents of all expressions of a list have a property can be computed. -/
def decideAllEveryExponent :
    (operands : List Expr) → Decidable (∀ operand ∈ operands, EveryExponent property operand)
  | [] => .isTrue (List.forall_mem_nil _)
  | operand :: operands =>
      have := decideEveryExponent operand
      have := decideAllEveryExponent operands
      decidable_of_iff
        (EveryExponent property operand ∧ ∀ other ∈ operands, EveryExponent property other)
        List.forall_mem_cons.symm
end

instance : DecidablePred (EveryExponent property) := decideEveryExponent

end Decidable

/-- A result of simplification has no power with the exponent zero. -/
theorem everyExponent_ne_zero_of_simplify_eq_ok
    {expr result : Expr}
    (success : expr.simplify = .ok result) :
    EveryExponent (· ≠ 0) result :=
  fun _ _ occurs => (power_normal_of_occursIn success occurs).1

end EveryExponent

/-- The exponents of all powers in an expression are positive. -/
def PositiveExponents (expr : Expr) : Prop :=
  EveryExponent (0 < ·.num) expr

instance : DecidablePred PositiveExponents :=
  inferInstanceAs (DecidablePred (EveryExponent (0 < ·.num)))

theorem isInherited_positiveExponents : IsInherited PositiveExponents :=
  isInherited_everyExponent

theorem positiveExponents_power_iff {base : Expr} {exponent : Fraction} :
    PositiveExponents (power base exponent) ↔ PositiveExponents base ∧ 0 < exponent.num :=
  everyExponent_power_iff

end Expr

namespace Simplify

open ExactAlgebra.Expr

/-! ## Positive exponents -/

/-- A power with a positive exponent is defined, whatever the constant. -/
theorem exists_numberPower_eq_ok
    (value : Fraction)
    {exponent : Fraction}
    (positive : 0 < exponent.num) :
    ∃ result, numberPower value exponent = .ok result ∧ PositiveExponents result := by
  obtain ⟨answer, found, _⟩ := Fraction.exists_pow_answersRoot value exponent (.inr positive)
  rw [numberPower, found]
  cases answer with
  | some power => exact ⟨_, rfl, isInherited_positiveExponents.number power⟩
  | none =>
      change ∃ result, (if exponent.num < 0 then _ else _) = _ ∧ _
      rw [if_neg (by omega)]
      refine ⟨_, rfl, positiveExponents_power_iff.mpr ⟨?_, positive⟩⟩
      exact isInherited_positiveExponents.number value

section Step

variable {simplifyPart : Expr → Except RewriteError Expr}

/-- Raising to a positive exponent succeeds if the power of a power can be simplified. -/
theorem exists_raise_eq_ok_of_positive
    {base : Expr}
    {exponent : Fraction}
    (basePositive : PositiveExponents base)
    (positive : 0 < exponent.num)
    (nested : ∀ inner innerExponent, base = power inner innerExponent → exponent ≠ 0 →
      exponent ≠ 1 → PositiveExponents (power inner (innerExponent * exponent)) →
        ∃ result, simplifyPart (power inner (innerExponent * exponent)) = .ok result ∧
          PositiveExponents result) :
    ∃ result, raise simplifyPart base exponent = .ok result ∧ PositiveExponents result := by
  have nonzero : exponent ≠ 0 := by
    rintro rfl
    exact Int.lt_irrefl 0 positive
  have kept : PositiveExponents (power base exponent) :=
    positiveExponents_power_iff.mpr ⟨basePositive, positive⟩
  unfold raise
  rw [if_neg nonzero]
  by_cases isOne : exponent = 1
  · rw [if_pos isOne]
    exact ⟨base, rfl, basePositive⟩
  · rw [if_neg isOne]
    cases base with
    | number value => exact exists_numberPower_eq_ok value positive
    | power inner innerExponent =>
        obtain ⟨innerPositive, innerExponentPositive⟩ := positiveExponents_power_iff.mp basePositive
        refine nested inner innerExponent rfl nonzero isOne (positiveExponents_power_iff.mpr ?_)
        exact ⟨innerPositive, Fraction.num_mul_pos innerExponentPositive positive⟩
    | symbol name => exact ⟨_, rfl, kept⟩
    | sum operands => exact ⟨_, rfl, kept⟩
    | product operands => exact ⟨_, rfl, kept⟩

/-- The exponents that add up under a base are positive if those of all factors are. -/
theorem positiveExponents_of_mem_factorTally
    {operands : List Expr}
    (positive : ∀ operand ∈ operands, PositiveExponents operand)
    {entry : Expr × Fraction}
    (member : entry ∈ factorTally operands) :
    PositiveExponents (power entry.1 entry.2) := by
  refine @Tally.forall_mem_ofEntries _ _
    (fun base exponent => PositiveExponents (power base exponent)) _ ?_ ?_ entry member
  · intro given inGiven
    obtain ⟨operand, inOperands, rfl⟩ := List.mem_map.mp inGiven
    have here := positive operand (List.mem_filter.mp inOperands).1
    cases operand with
    | power base exponent => exact here
    | _ => exact positiveExponents_power_iff.mpr ⟨here, Int.one_pos⟩
  · intro base first second firstPositive secondPositive
    rw [positiveExponents_power_iff] at firstPositive secondPositive ⊢
    exact ⟨firstPositive.1, Fraction.num_add_pos firstPositive.2 secondPositive.2⟩

/-- Multiplying factors with positive exponents succeeds if the collected powers can be
simplified. -/
theorem exists_collectProduct_eq_ok_of_positive
    {operands : List Expr}
    (positive : ∀ operand ∈ operands, PositiveExponents operand)
    (collected : constantFactor operands ≠ 0 → ∀ entry ∈ factorTally operands,
      entry.2 ≠ 0 → entry.2 ≠ 1 → PositiveExponents (power entry.1 entry.2) →
        ∃ factor, simplifyPart (power entry.1 entry.2) = .ok factor ∧ PositiveExponents factor) :
    ∃ result, collectProduct simplifyPart operands = .ok result ∧ PositiveExponents result := by
  unfold collectProduct
  by_cases isZero : constantFactor operands = 0
  · rw [if_pos isZero]
    exact ⟨_, rfl, isInherited_positiveExponents.number 0⟩
  · rw [if_neg isZero]
    have each : ∀ entry ∈ factorTally operands, ∃ factors,
        collectedFactor simplifyPart entry = .ok factors ∧
          ∀ factor ∈ factors, PositiveExponents factor := by
      intro entry member
      have entryPositive := positiveExponents_of_mem_factorTally positive member
      have exponentPositive := (positiveExponents_power_iff.mp entryPositive).2
      have nonzero : entry.2 ≠ 0 := fun isZero => by simp [isZero] at exponentPositive
      unfold collectedFactor
      rw [if_neg nonzero]
      by_cases isOne : entry.2 = 1
      · rw [if_pos isOne]
        refine ⟨_, rfl, List.forall_mem_singleton.mpr ?_⟩
        exact (positiveExponents_power_iff.mp entryPositive).1
      · rw [if_neg isOne]
        obtain ⟨factor, found, factorPositive⟩ :=
          collected isZero entry member nonzero isOne entryPositive
        rw [found]
        exact ⟨_, rfl, List.forall_mem_singleton.mpr factorPositive⟩
    choose! factors found factorsPositive using each
    rw [mapM_eq_ok_map found]
    refine ⟨_, rfl, isInherited_positiveExponents.assembleProduct _ fun factor member => ?_⟩
    obtain ⟨list, inLists, inList⟩ := List.mem_flatten.mp (List.mem_filter.mp member).1
    obtain ⟨entry, inTally, rfl⟩ := List.mem_map.mp inLists
    exact factorsPositive entry inTally factor inList

end Step

end Simplify

namespace Expr

/-- Expressions whose exponents are all positive can be simplified, and the exponents of
the result are positive. -/
theorem PositiveExponents.exists_simplify_eq_ok {expr : Expr} (positive : PositiveExponents expr) :
    ∃ result, expr.simplify = .ok result ∧ PositiveExponents result := by
  induction expr using Simplify.calls_induction with
  | inherited whole hypothesis =>
      rw [simplify_eq_step]
      cases whole with
      | number value => exact ⟨_, rfl, isInherited_positiveExponents.number value⟩
      | symbol name => exact ⟨_, rfl, everyExponent_symbol name⟩
      | sum operands =>
          have each := (isInherited_positiveExponents.sum_iff operands).mp positive
          have parts := fun operand member =>
            hypothesis operand (.term member) (each operand member)
          choose! result found resultPositive using parts
          rw [Simplify.step, mapM_eq_ok_map found]
          refine ⟨_, rfl, isInherited_positiveExponents.collectSum ?_⟩
          exact isInherited_positiveExponents.flatMap_summands
            (List.forall_mem_map.mpr resultPositive)
      | product operands =>
          have each := (isInherited_positiveExponents.product_iff operands).mp positive
          have parts := fun operand member =>
            hypothesis operand (.factor member) (each operand member)
          choose! result found resultPositive using parts
          have mapped := mapM_eq_ok_map found
          rw [Simplify.step, mapped]
          apply Simplify.exists_collectProduct_eq_ok_of_positive
          · exact isInherited_positiveExponents.flatMap_factors
              (List.forall_mem_map.mpr resultPositive)
          · intro defined entry member nonzero notOne
            exact hypothesis _ (.collected mapped defined member nonzero notOne)
      | power base exponent =>
          obtain ⟨basePositive, exponentPositive⟩ := positiveExponents_power_iff.mp positive
          obtain ⟨simplified, found, simplifiedPositive⟩ :=
            hypothesis base (.base base exponent) basePositive
          rw [Simplify.step, found]
          apply Simplify.exists_raise_eq_ok_of_positive simplifiedPositive exponentPositive
          rintro inner innerExponent rfl nonzero notOne
          exact hypothesis _ (.nested found nonzero notOne)

end Expr
end ExactAlgebra
