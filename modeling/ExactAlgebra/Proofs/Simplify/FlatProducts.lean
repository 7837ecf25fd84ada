import ExactAlgebra.Proofs.Simplify.Exponents

/-!
# Flat products

A product is flat if no sum and no product is among its factors. Multiplying factors can
make a product that is not: where the exponents of a base add up to one, the base itself
becomes a factor, and a power of a power can come down to its base.

Neither happens to a sum or a product under a negative exponent, as long as the exponents
inside are positive. Negative exponents add up to negative ones, and a negative exponent
times a positive one stays negative. The bases of all other powers have to be constants or
variables then. Products of such factors are flat, and so are sums of such products.
-/

namespace ExactAlgebra

/-- A positive and a negative fraction have a negative product. -/
theorem Fraction.num_mul_neg
    {left right : Fraction}
    (leftPositive : 0 < left.num)
    (rightNegative : right.num < 0) :
    (left * right).num < 0 := by
  rw [← num_toRat, Rat.num_neg, toRat_mul]
  exact mul_neg_of_pos_of_neg (Rat.num_pos.mp leftPositive) (Rat.num_neg.mp rightNegative)

/-- The sum of negative fractions is negative. -/
theorem Fraction.num_add_neg
    {left right : Fraction}
    (leftNegative : left.num < 0)
    (rightNegative : right.num < 0) :
    (left + right).num < 0 := by
  rw [← num_toRat, Rat.num_neg, toRat_add]
  exact add_neg (Rat.num_neg.mp leftNegative) (Rat.num_neg.mp rightNegative)

namespace Expr

/-! ## Sums of products -/

/-- A single factor, or a product that has no sum and no product among its factors and one
constant at most. -/
structure IsFlatTerm (term : Expr) : Prop where
  flat : ∀ factor ∈ term.factors, factor.kind ≠ .sum ∧ factor.kind ≠ .product
  oneConstant : (term.factors.filter (·.isNumber)).length ≤ 1

/-- A single term, or a sum of terms that are no sums, with flat terms only. -/
def IsSumOfProducts (expr : Expr) : Prop :=
  ∀ term ∈ expr.summands, IsFlatTerm term

/-! ## Powers that stay powers -/

/-- A constant or a variable. -/
inductive IsLeaf : Expr → Prop
  | number (value : Fraction) : IsLeaf (number value)
  | symbol (name : Symbol) : IsLeaf (symbol name)

/-- A base with an exponent under which no sum and no product comes out of it: the base is a
constant or a variable, or the exponent is negative and those inside the base are
positive. -/
inductive IsFlatPower (base : Expr) (exponent : Fraction) : Prop
  | leaf (isLeaf : IsLeaf base)
  | inverse (negative : exponent.num < 0) (positive : PositiveExponents base)

/-- A constant, a variable or a power that stays one. -/
inductive IsFlatFactor : Expr → Prop
  | number (value : Fraction) : IsFlatFactor (number value)
  | symbol (name : Symbol) : IsFlatFactor (symbol name)
  | power {base : Expr} {exponent : Fraction}
      (flat : IsFlatPower base exponent) :
      IsFlatFactor (power base exponent)

theorem IsLeaf.isFlatFactor {expr : Expr} (isLeaf : IsLeaf expr) : IsFlatFactor expr := by
  cases isLeaf with
  | number value => exact .number value
  | symbol name => exact .symbol name

theorem IsLeaf.simplify_eq {expr : Expr} (isLeaf : IsLeaf expr) : expr.simplify = .ok expr := by
  rw [simplify_eq_step]
  cases isLeaf <;> rfl

theorem IsFlatFactor.kind_ne {factor : Expr} (flat : IsFlatFactor factor) :
    factor.kind ≠ .sum ∧ factor.kind ≠ .product := by
  cases flat <;> exact ⟨nofun, nofun⟩

/-- Exponents under one base add up. -/
theorem IsFlatPower.add
    {base : Expr}
    {first second : Fraction}
    (firstFlat : IsFlatPower base first)
    (secondFlat : IsFlatPower base second) :
    IsFlatPower base (first + second) := by
  cases firstFlat with
  | leaf isLeaf => exact .leaf isLeaf
  | inverse firstNegative positive =>
      cases secondFlat with
      | leaf isLeaf => exact .leaf isLeaf
      | inverse secondNegative _ =>
          exact .inverse (Fraction.num_add_neg firstNegative secondNegative) positive

/-- The base alone is left only if it is a constant or a variable. -/
theorem IsFlatPower.isLeaf_of_one {base : Expr} (flat : IsFlatPower base 1) : IsLeaf base := by
  cases flat with
  | leaf isLeaf => exact isLeaf
  | inverse negative _ => exact absurd negative (by decide)

theorem IsFlatPower.of_simplify
    {base simplified : Expr}
    {exponent : Fraction}
    (flat : IsFlatPower base exponent)
    (success : base.simplify = .ok simplified) :
    IsFlatPower simplified exponent := by
  cases flat with
  | leaf isLeaf =>
      rw [isLeaf.simplify_eq] at success
      cases success
      exact .leaf isLeaf
  | inverse negative positive =>
      obtain ⟨result, found, resultPositive⟩ := positive.exists_simplify_eq_ok
      rw [found] at success
      cases success
      exact .inverse negative resultPositive

theorem IsFlatPower.nested
    {inner : Expr}
    {innerExponent exponent : Fraction}
    (flat : IsFlatPower (Expr.power inner innerExponent) exponent) :
    IsFlatPower inner (innerExponent * exponent) := by
  cases flat with
  | leaf isLeaf => cases isLeaf
  | inverse negative positive =>
      obtain ⟨innerPositive, exponentPositive⟩ := positiveExponents_power_iff.mp positive
      exact .inverse (Fraction.num_mul_neg exponentPositive negative) innerPositive

/-- Simplifying such a power gives such a factor. -/
theorem IsFlatPower.isFlatFactor_of_simplify_eq_ok
    {base result : Expr}
    {exponent : Fraction}
    (flat : IsFlatPower base exponent)
    (success : (Expr.power base exponent).simplify = .ok result) :
    IsFlatFactor result := by
  induction whole : Expr.power base exponent using Simplify.calls_induction
    generalizing base exponent result with
  | inherited whole hypothesis =>
      subst whole
      rw [simplify_eq_step] at success
      obtain ⟨simplified, found, raised⟩ := except_bind_eq_ok success
      have simplifiedFlat := flat.of_simplify found
      cases Simplify.raisesTo_of_raise_eq_ok raised with
      | zero => exact .number 1
      | one _ isOne =>
          subst isOne
          exact simplifiedFlat.isLeaf_of_one.isFlatFactor
      | constant nonzero notOne powered =>
          rcases Simplify.numberPower_cases powered with ⟨answer, rfl⟩ | ⟨value, kept, rfl, _⟩
          · exact .number answer
          · exact .power (.leaf (.number value))
      | nested nonzero notOne simplifiedNested =>
          exact hypothesis _ (.nested found nonzero notOne) simplifiedFlat.nested
            simplifiedNested rfl
      | kept => exact .power simplifiedFlat

/-! ## Flat products -/

/-- A factor, or an arranged product of several such factors with one constant at most. -/
structure IsFlatProduct (expr : Expr) : Prop where
  flat : ∀ factor ∈ expr.factors, IsFlatFactor factor
  oneConstant : (expr.factors.filter (·.isNumber)).length ≤ 1
  ordered : expr.factors.Pairwise (le · ·)
  several : expr.kind = .product → 2 ≤ expr.factors.length

theorem IsFlatProduct.isFlatTerm {expr : Expr} (product : IsFlatProduct expr) : IsFlatTerm expr :=
  ⟨fun factor member => (product.flat factor member).kind_ne, product.oneConstant⟩

theorem IsFlatProduct.factors_ne_nil {expr : Expr} (product : IsFlatProduct expr) :
    expr.factors ≠ [] := by
  by_cases isProduct : expr.kind = .product
  · have several := product.several isProduct
    exact List.ne_nil_of_length_pos (by omega)
  · rw [factors_eq_singleton isProduct]
    exact List.cons_ne_nil _ _

/-- A flat product is no sum. -/
theorem IsFlatProduct.kind_ne_sum {expr : Expr} (product : IsFlatProduct expr) :
    expr.kind ≠ .sum := by
  by_cases isProduct : expr.kind = .product
  · rw [isProduct]
    exact nofun
  · have alone := factors_eq_singleton isProduct
    exact (product.flat expr (alone ▸ List.mem_singleton_self expr)).kind_ne.1

theorem IsFlatFactor.isFlatProduct {factor : Expr} (flat : IsFlatFactor factor) :
    IsFlatProduct factor := by
  have alone := factors_eq_singleton flat.kind_ne.2
  refine ⟨?_, ?_, ?_, fun isProduct => absurd isProduct flat.kind_ne.2⟩
  · rw [alone]
    exact List.forall_mem_singleton.mpr flat
  · rw [alone]
    exact List.length_filter_le _ _
  · rw [alone]
    exact List.pairwise_singleton _ _

theorem isFlatProduct_productOf
    {factors : List Expr}
    (several : 2 ≤ factors.length)
    (flat : ∀ factor ∈ factors, IsFlatFactor factor)
    (oneConstant : (factors.filter (·.isNumber)).length ≤ 1) :
    IsFlatProduct (productOf factors) := by
  have perm := perm_arrange factors
  refine ⟨fun factor member => flat factor (perm.mem_iff.mp member), ?_, pairwise_arrange factors,
    fun _ => ?_⟩
  · rwa [productOf, Expr.factors, (perm.filter _).length_eq]
  · rwa [productOf, Expr.factors, perm.length_eq]

theorem isFlatProduct_productOfFactors
    {factors : List Expr}
    (flat : ∀ factor ∈ factors, IsFlatFactor factor)
    (oneConstant : (factors.filter (·.isNumber)).length ≤ 1) :
    IsFlatProduct (productOfFactors factors) := by
  match factors with
  | [] => exact (IsFlatFactor.number 1).isFlatProduct
  | [factor] => exact (flat factor List.mem_cons_self).isFlatProduct
  | first :: second :: others => exact isFlatProduct_productOf (by simp) flat oneConstant

end Expr

namespace Simplify

open ExactAlgebra.Expr

/-! ## Multiplying -/

theorem isFlatProduct_assembleProduct
    {factors : List Expr}
    (coefficient : Fraction)
    (flat : ∀ factor ∈ factors, IsFlatFactor factor)
    (noConstants : ∀ factor ∈ factors, factor.isNumber = false) :
    IsFlatProduct (assembleProduct coefficient factors) := by
  have none : factors.filter (·.isNumber) = [] := filter_isNumber_eq_nil_iff.mpr noConstants
  unfold assembleProduct
  split
  · exact (IsFlatFactor.number 0).isFlatProduct
  · split
    · exact isFlatProduct_productOfFactors flat (by simp [none])
    · refine isFlatProduct_productOfFactors (List.forall_mem_append.mpr ⟨flat, ?_⟩) ?_
      · exact List.forall_mem_singleton.mpr (.number coefficient)
      · rw [List.filter_append, none]
        exact List.length_filter_le _ _

/-- The exponents of equal bases add up to powers that stay powers. -/
theorem isFlatPower_of_mem_factorTally
    {operands : List Expr}
    (flat : ∀ operand ∈ operands, IsFlatFactor operand)
    {entry : Expr × Fraction}
    (member : entry ∈ factorTally operands) :
    IsFlatPower entry.1 entry.2 := by
  refine Tally.forall_mem_ofEntries (fun given inGiven => ?_) (fun _ _ _ => IsFlatPower.add) member
  obtain ⟨operand, inOperands, rfl⟩ := List.mem_map.mp inGiven
  obtain ⟨belongs, notNumber⟩ := List.mem_filter.mp inOperands
  cases flat operand belongs with
  | number value => cases notNumber
  | symbol name => exact .leaf (.symbol name)
  | power isFlat => exact isFlat

/-- Multiplying such factors gives a flat product. -/
theorem isFlatProduct_of_collectProduct_eq_ok
    {operands : List Expr}
    {result : Expr}
    (flat : ∀ operand ∈ operands, IsFlatFactor operand)
    (success : collectProduct Expr.simplify operands = .ok result) :
    IsFlatProduct result := by
  cases multipliesTo_of_collectProduct_eq_ok success with
  | zero => exact (IsFlatFactor.number 0).isFlatProduct
  | assembled nonzero mapped =>
      refine isFlatProduct_assembleProduct _ (fun factor member => ?_)
        fun factor member => (exists_of_mem_collected mapped member).1
      obtain ⟨_, entry, inTally, factors, found, inFactors⟩ := exists_of_mem_collected mapped member
      have entryFlat := isFlatPower_of_mem_factorTally flat inTally
      cases collectsTo_of_collectedFactor_eq_ok found with
      | zero => cases inFactors
      | one isOne =>
          cases List.mem_singleton.mp inFactors
          exact (isOne ▸ entryFlat).isLeaf_of_one.isFlatFactor
      | power nonzero notOne simplified =>
          cases List.mem_singleton.mp inFactors
          exact entryFlat.isFlatFactor_of_simplify_eq_ok simplified

/-! ## Adding -/

/-- A flat product without constants. -/
structure IsFlatPart (part : Expr) : Prop where
  product : IsFlatProduct part
  noConstants : ∀ factor ∈ part.factors, factor.isNumber = false

theorem isFlatPart_productOfFactors
    {factors : List Expr}
    (nonempty : factors ≠ [])
    (flat : ∀ factor ∈ factors, IsFlatFactor factor)
    (noConstants : ∀ factor ∈ factors, factor.isNumber = false) :
    IsFlatPart (productOfFactors factors) := by
  have none : factors.filter (·.isNumber) = [] := filter_isNumber_eq_nil_iff.mpr noConstants
  refine ⟨isFlatProduct_productOfFactors flat (by simp [none]), ?_⟩
  match factors, nonempty, flat, noConstants with
  | [factor], _, flat, noConstants =>
      rw [productOfFactors, factors_eq_singleton (flat factor List.mem_cons_self).kind_ne.2]
      exact noConstants
  | first :: second :: others, _, flat, noConstants =>
      exact fun factor member => noConstants factor ((perm_arrange _).mem_iff.mp member)

/-- The constant of a flat product is in front, so no constant is left apart from it. -/
theorem isFlatPart_splitTerm
    {term : Expr}
    (product : IsFlatProduct term)
    (notNumber : term.isNumber = false) :
    IsFlatPart (splitTerm term).1 := by
  cases term with
  | product operands =>
      cases operands with
      | nil => exact absurd (product.several rfl) (by simp [Expr.factors])
      | cons head tail =>
          cases constant : head.isNumber with
          | true =>
              obtain ⟨value, rfl⟩ := exists_eq_number constant
              have nonempty : tail ≠ [] := by
                rintro rfl
                exact absurd (product.several rfl) (by simp [Expr.factors])
              refine isFlatPart_productOfFactors nonempty
                (List.forall_mem_cons.mp product.flat).2 ?_
              have one := product.oneConstant
              rw [Expr.factors, List.filter_cons_of_pos rfl, List.length_cons] at one
              exact filter_isNumber_eq_nil_iff.mp (List.eq_nil_of_length_eq_zero (by omega))
          | false =>
              have noConstants : ∀ factor ∈ (Expr.product (head :: tail)).factors,
                  factor.isNumber = false :=
                noConstants_of_head product.ordered constant
              rw [splitTerm_of_noConstants noConstants]
              exact ⟨product, noConstants⟩
  | _ => exact ⟨product, List.forall_mem_singleton.mpr notNumber⟩

theorem isFlatProduct_scale
    {part : Expr}
    (coefficient : Fraction)
    (isPart : IsFlatPart part) :
    IsFlatProduct (scale coefficient part) := by
  have none : part.factors.filter (·.isNumber) = [] :=
    filter_isNumber_eq_nil_iff.mpr isPart.noConstants
  rw [scale_eq]
  refine isFlatProduct_productOf ?_ (List.forall_mem_append.mpr ⟨isPart.product.flat, ?_⟩) ?_
  · have positive := List.length_pos_of_ne_nil isPart.product.factors_ne_nil
    rw [List.length_append, List.length_singleton]
    omega
  · exact List.forall_mem_singleton.mpr (.number coefficient)
  · rw [List.filter_append, none]
    exact List.length_filter_le _ _

/-- Adding up flat products gives flat products as terms. -/
theorem isFlatProduct_of_mem_summands_collectSum
    {operands : List Expr}
    (products : ∀ operand ∈ operands, IsFlatProduct operand) :
    ∀ term ∈ (collectSum operands).summands, IsFlatProduct term := by
  have parts : ∀ entry ∈ termTally operands, IsFlatPart entry.1 :=
    forall_mem_termTally fun operand member => isFlatPart_splitTerm (products operand member)
  have terms : ∀ term ∈ (termTally operands).filterMap collectedTerm?, IsFlatProduct term := by
    intro term member
    obtain ⟨entry, inTally, found⟩ := List.mem_filterMap.mp member
    rcases cases_of_collectedTerm?_eq_some found with ⟨_, rfl⟩ | ⟨_, _, rfl⟩
    · exact (parts entry inTally).product
    · exact isFlatProduct_scale entry.2 (parts entry inTally)
  have zero := (IsFlatFactor.number 0).isFlatProduct
  unfold collectSum
  dsimp only
  split
  · exact forall_mem_summands_sumOfTerms zero terms fun term member =>
      (terms term member).kind_ne_sum
  · have withConstant := List.forall_mem_cons.mpr
      ⟨(IsFlatFactor.number (constantTerm operands)).isFlatProduct, terms⟩
    exact forall_mem_summands_sumOfTerms zero withConstant fun term member =>
      (withConstant term member).kind_ne_sum

end Simplify
end ExactAlgebra
