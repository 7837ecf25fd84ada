import ExactAlgebra.Proofs.Expand.Value
import ExactAlgebra.Proofs.Simplify.FixedPoint
import ExactAlgebra.Proofs.Simplify.FlatProducts
import Mathlib.Algebra.Order.Field.Basic

/-!
# Expanding to sums of products

Expansion multiplies out the sums that it sees, and simplification may bring out others
afterwards: a power of a power can come down to a sum, and powers of a sum with fractional
exponents can multiply to the sum itself. Then a sum stays among the factors of a product.

This cannot happen if all powers that are met have natural exponents, except for two kinds:
powers of a single constant or variable, nested in any way, and negative powers of
expressions whose own exponents are all positive. Then the terms of the expansion are
products of constants, variables and such powers, and simplifying them gives flat products.
-/

namespace ExactAlgebra
namespace Expr

/-! ## Towers over a constant or variable -/

/-- A constant or a variable under any number of powers. -/
inductive IsChain : Expr → Prop
  | leaf {expr : Expr} (isLeaf : IsLeaf expr) : IsChain expr
  | power (base : Expr) (exponent : Fraction) (chain : IsChain base) :
      IsChain (power base exponent)

/-- What a chain expands to: powers, and products of copies. -/
inductive IsTower : Expr → Prop
  | leaf {expr : Expr} (isLeaf : IsLeaf expr) : IsTower expr
  | power (base : Expr) (exponent : Fraction) (tower : IsTower base) :
      IsTower (power base exponent)
  | copies (base : Expr) (count : Nat) (tower : IsTower base) :
      IsTower (product (List.replicate count base))

/-- What a tower comes down to: a constant, a variable or a power of one. -/
inductive IsLeafPower : Expr → Prop
  | leaf {expr : Expr} (isLeaf : IsLeaf expr) : IsLeafPower expr
  | power {base : Expr} (exponent : Fraction) (isLeaf : IsLeaf base) :
      IsLeafPower (power base exponent)

theorem IsLeafPower.isFlatFactor {expr : Expr} (leafPower : IsLeafPower expr) :
    IsFlatFactor expr := by
  cases leafPower with
  | leaf isLeaf => exact isLeaf.isFlatFactor
  | power exponent isLeaf => exact .power (.leaf isLeaf)

theorem IsTower.kind_ne_sum {expr : Expr} (tower : IsTower expr) : expr.kind ≠ .sum := by
  cases tower with
  | leaf isLeaf => exact isLeaf.isFlatFactor.kind_ne.1
  | power base exponent => exact nofun
  | copies base count => exact nofun

theorem IsTower.productOfFactors
    {base : Expr}
    (tower : IsTower base)
    (count : Nat) :
    IsTower (productOfFactors (List.replicate count base)) := by
  match count with
  | 0 => exact .leaf (.number 1)
  | 1 => exact tower
  | count + 2 =>
      have arranged : arrange (List.replicate (count + 2) base) =
          List.replicate (count + 2) base :=
        List.eq_replicate_iff.mpr ⟨(perm_arrange _).length_eq.trans List.length_replicate,
          fun _ member => List.eq_of_mem_replicate ((perm_arrange _).mem_iff.mp member)⟩
      change IsTower (product (arrange (List.replicate (count + 2) base)))
      rw [arranged]
      exact .copies base (count + 2) tower

theorem IsTower.repeated {base : Expr} (tower : IsTower base) (count : Nat) :
    IsTower (Expand.repeated count base) := by
  rw [Expand.repeated_eq, summands_eq_singleton tower.kind_ne_sum, Expand.selections_singleton]
  exact tower.productOfFactors count

theorem IsTower.unroll {base : Expr} (tower : IsTower base) (exponent : Fraction) :
    IsTower (Expand.unroll base exponent) := by
  unfold Expand.unroll
  dsimp only
  split
  · exact tower.repeated _
  · exact .power _ _ (tower.repeated _)

/-- A chain expands to a tower. -/
theorem IsChain.isTower_of_expand_eq_ok
    {expr expanded : Expr}
    (chain : IsChain expr)
    (success : expr.expand = .ok expanded) :
    IsTower expanded := by
  induction chain generalizing expanded with
  | leaf isLeaf =>
      cases isLeaf with
      | number value =>
          cases expandsTo_of_expand_eq_ok success with
          | number => exact .leaf (.number value)
      | symbol name =>
          cases expandsTo_of_expand_eq_ok success with
          | symbol => exact .leaf (.symbol name)
  | power base exponent _ hypothesis =>
      cases expandsTo_of_expand_eq_ok success with
      | zero => exact .leaf (.number 1)
      | one _ found => exact hypothesis found
      | unrolled _ _ found => exact (hypothesis found).unroll exponent

end Expr

namespace Simplify

open ExactAlgebra.Expr

/-! ## Simplifying towers -/

theorem isLeafPower_of_raise_leaf
    {base result : Expr}
    {exponent : Fraction}
    (isLeaf : IsLeaf base)
    (success : raise Expr.simplify base exponent = .ok result) :
    IsLeafPower result := by
  cases raisesTo_of_raise_eq_ok success with
  | zero => exact .leaf (.number 1)
  | one => exact .leaf isLeaf
  | constant nonzero notOne powered =>
      rcases numberPower_cases powered with ⟨answer, rfl⟩ | ⟨value, kept, rfl, _⟩
      · exact .leaf (.number answer)
      · exact .power kept (.number value)
  | nested => cases isLeaf
  | kept => exact .power exponent isLeaf

theorem isLeafPower_of_simplify_power_leaf
    {base result : Expr}
    {exponent : Fraction}
    (isLeaf : IsLeaf base)
    (success : (power base exponent).simplify = .ok result) :
    IsLeafPower result := by
  rw [simplify_eq_step, step, isLeaf.simplify_eq] at success
  exact isLeafPower_of_raise_leaf isLeaf success

theorem isLeafPower_of_raise
    {base result : Expr}
    {exponent : Fraction}
    (leafPower : IsLeafPower base)
    (success : raise Expr.simplify base exponent = .ok result) :
    IsLeafPower result := by
  cases leafPower with
  | leaf isLeaf => exact isLeafPower_of_raise_leaf isLeaf success
  | power innerExponent isLeaf =>
      cases raisesTo_of_raise_eq_ok success with
      | zero => exact .leaf (.number 1)
      | one => exact .power innerExponent isLeaf
      | nested nonzero notOne found => exact isLeafPower_of_simplify_power_leaf isLeaf found
      | kept nonzero notOne notNumber flat => exact absurd rfl flat

theorem isLeaf_assembleProduct_nil (coefficient : Fraction) :
    IsLeaf (assembleProduct coefficient []) := by
  unfold assembleProduct
  split
  · exact .number 0
  · split
    · exact .number 1
    · exact .number coefficient

theorem isLeaf_splitFactor {factor : Expr} (leafPower : IsLeafPower factor) :
    IsLeaf (splitFactor factor).1 := by
  cases leafPower with
  | leaf isLeaf => cases isLeaf <;> constructor
  | power exponent isLeaf => exact isLeaf

/-- A tally of entries with one key has one entry at most. -/
theorem length_ofEntries_le_one
    {key : Expr}
    {entries : List (Expr × Fraction)}
    (oneKey : ∀ entry ∈ entries, entry.1 = key) :
    (Tally.ofEntries entries).length ≤ 1 := by
  have distinct := Tally.nodup_keys_ofEntries entries
  have same : Tally.keys (Tally.ofEntries entries) =
      List.replicate (Tally.keys (Tally.ofEntries entries)).length key := by
    refine List.eq_replicate_of_mem fun other member => ?_
    obtain ⟨entry, inTally, rfl⟩ := List.mem_map.mp member
    exact @Tally.forall_key_of_mem_ofEntries _ _ (· = key) _ oneKey _ inTally
  rw [same, List.nodup_replicate] at distinct
  simpa [Tally.keys] using distinct

theorem isLeafPower_assembleProduct_singleton
    {factor : Expr}
    (leafPower : IsLeafPower factor) :
    IsLeafPower
      (assembleProduct (1 * constantFactor [factor]) ([factor].filter (!·.isNumber))) := by
  cases notNumber : factor.isNumber with
  | true =>
      rw [List.filter_cons_of_neg (by simp [notNumber]), List.filter_nil]
      exact .leaf (isLeaf_assembleProduct_nil _)
  | false =>
      have one : (1 : Fraction) * 1 = 1 := by decide +kernel
      rw [List.filter_cons_of_pos (by simp [notNumber]), List.filter_nil,
        constantFactor_of_noConstants (List.forall_mem_singleton.mpr notNumber), one,
        assembleProduct, if_neg (by decide), if_pos rfl]
      exact leafPower

/-- Multiplying copies of a power of a constant or variable gives such a power: the copies
have one base, so that one power is left at most. -/
theorem isLeafPower_of_collectProduct_replicate
    {factor result : Expr}
    {count : Nat}
    (leafPower : IsLeafPower factor)
    (success : collectProduct Expr.simplify (List.replicate count factor) = .ok result) :
    IsLeafPower result := by
  have copy : ∀ operand ∈ List.replicate count factor, operand = factor := fun _ =>
    List.eq_of_mem_replicate
  have short : (factorTally (List.replicate count factor)).length ≤ 1 := by
    refine @length_ofEntries_le_one (splitFactor factor).1 _ fun entry member => ?_
    obtain ⟨operand, inOperands, rfl⟩ := List.mem_map.mp member
    rw [copy operand (List.mem_filter.mp inOperands).1]
  have bases : ∀ entry ∈ factorTally (List.replicate count factor),
      IsLeaf entry.1 ∧ factor.isNumber = false :=
    @forall_mem_factorTally (fun base => IsLeaf base ∧ factor.isNumber = false) _
      fun operand member notNumber => by
        rw [copy operand member] at notNumber ⊢
        exact ⟨isLeaf_splitFactor leafPower, notNumber⟩
  cases multipliesTo_of_collectProduct_eq_ok success with
  | zero => exact .leaf (.number 0)
  | assembled nonzero mapped =>
      match tally : factorTally (List.replicate count factor), short with
      | [], _ =>
          rw [tally] at mapped
          cases mapped
          exact .leaf (isLeaf_assembleProduct_nil _)
      | [entry], _ =>
          obtain ⟨isLeaf, notNumber⟩ := bases entry (tally ▸ List.mem_cons_self)
          have noConstants : constantFactor (List.replicate count factor) = 1 :=
            constantFactor_of_noConstants fun operand member => copy operand member ▸ notNumber
          rw [tally, List.mapM_cons] at mapped
          obtain ⟨factors, found, rest⟩ := except_bind_eq_ok mapped
          cases rest
          rw [noConstants]
          cases collectsTo_of_collectedFactor_eq_ok found with
          | zero => exact .leaf (isLeaf_assembleProduct_nil _)
          | one => exact isLeafPower_assembleProduct_singleton (.leaf isLeaf)
          | power nonzero notOne simplified =>
              exact isLeafPower_assembleProduct_singleton
                (isLeafPower_of_simplify_power_leaf isLeaf simplified)

/-- A tower comes down to a power of its constant or variable. -/
theorem isLeafPower_of_simplify_tower
    {expr result : Expr}
    (tower : IsTower expr)
    (success : expr.simplify = .ok result) :
    IsLeafPower result := by
  induction tower generalizing result with
  | leaf isLeaf =>
      rw [isLeaf.simplify_eq] at success
      cases success
      exact .leaf isLeaf
  | power base exponent _ hypothesis =>
      rw [simplify_eq_step] at success
      obtain ⟨simplified, found, last⟩ := except_bind_eq_ok success
      exact isLeafPower_of_raise (hypothesis found) last
  | copies base count _ hypothesis =>
      rw [simplify_eq_step] at success
      obtain ⟨simplified, mapped, last⟩ := except_bind_eq_ok success
      cases count with
      | zero =>
          cases mapped
          exact @isLeafPower_of_collectProduct_replicate 1 _ 0 (.leaf (.number 1)) last
      | succ count =>
          cases found : base.simplify with
          | error _ =>
              rw [List.replicate_succ, List.mapM_cons, found] at mapped
              cases mapped
          | ok factor =>
              have leafPower := hypothesis found
              have copies : (List.replicate (count + 1) base).mapM Expr.simplify =
                  .ok (List.replicate (count + 1) factor) := by
                rw [@mapM_eq_ok_map _ _ _ _ _ (fun _ => factor) fun operand member =>
                  List.eq_of_mem_replicate member ▸ found, List.map_replicate]
              cases copies.symm.trans mapped
              rw [flatMap_factors_eq_self fun operand member =>
                List.eq_of_mem_replicate member ▸ leafPower.isFlatFactor.kind_ne.2] at last
              exact isLeafPower_of_collectProduct_replicate leafPower last

end Simplify

namespace Expr

/-! ## Expanded terms -/

/-- A nested product of constants, variables, powers of towers, and negative powers of
expressions with positive exponents. -/
inductive IsExpandedTerm : Expr → Prop
  | number (value : Fraction) : IsExpandedTerm (number value)
  | symbol (name : Symbol) : IsExpandedTerm (symbol name)
  | product {operands : List Expr} (each : ∀ operand ∈ operands, IsExpandedTerm operand) :
      IsExpandedTerm (product operands)
  | tower {base : Expr} (exponent : Fraction) (isTower : IsTower base) :
      IsExpandedTerm (power base exponent)
  | inverse {base : Expr} {exponent : Fraction}
      (negative : exponent.num < 0)
      (positive : PositiveExponents base) :
      IsExpandedTerm (power base exponent)

theorem isTermProperty_isExpandedTerm : IsTermProperty IsExpandedTerm where
  number := .number
  product := .product
  notSum term := by cases term <;> exact nofun

theorem IsTower.isExpandedTerm {expr : Expr} (tower : IsTower expr) : IsExpandedTerm expr := by
  induction tower with
  | leaf isLeaf =>
      cases isLeaf with
      | number value => exact .number value
      | symbol name => exact .symbol name
  | power base exponent tower _ => exact .tower exponent tower
  | copies base count _ hypothesis =>
      exact .product fun operand member => List.eq_of_mem_replicate member ▸ hypothesis

/-- Simplifying an expanded term gives a flat product. -/
theorem IsExpandedTerm.isFlatProduct_of_simplify_eq_ok
    {expr result : Expr}
    (term : IsExpandedTerm expr)
    (success : expr.simplify = .ok result) :
    IsFlatProduct result := by
  induction term generalizing result with
  | number value =>
      rw [(IsLeaf.number value).simplify_eq] at success
      cases success
      exact (IsFlatFactor.number value).isFlatProduct
  | symbol name =>
      rw [(IsLeaf.symbol name).simplify_eq] at success
      cases success
      exact (IsFlatFactor.symbol name).isFlatProduct
  | product _ hypothesis =>
      rw [simplify_eq_step] at success
      obtain ⟨simplified, mapped, last⟩ := except_bind_eq_ok success
      refine Simplify.isFlatProduct_of_collectProduct_eq_ok (fun factor member => ?_) last
      obtain ⟨part, inSimplified, inFactors⟩ := List.mem_flatMap.mp member
      obtain ⟨operand, inOperands, found⟩ := exists_of_mem_mapM mapped inSimplified
      exact (hypothesis operand inOperands found).flat factor inFactors
  | tower exponent isTower =>
      have leafPower := Simplify.isLeafPower_of_simplify_tower (.power _ exponent isTower) success
      exact leafPower.isFlatFactor.isFlatProduct
  | inverse negative positive =>
      exact ((IsFlatPower.inverse negative positive).isFlatFactor_of_simplify_eq_ok
        success).isFlatProduct

/-- Simplifying a sum of expanded terms gives a sum of flat products. -/
theorem isFlatProduct_of_mem_summands_simplify
    {expr result : Expr}
    (terms : ∀ term ∈ expr.summands, IsExpandedTerm term)
    (success : expr.simplify = .ok result) :
    ∀ term ∈ result.summands, IsFlatProduct term := by
  by_cases isSum : expr.kind = .sum
  · cases expr with
    | sum operands =>
        rw [simplify_eq_step] at success
        obtain ⟨simplified, mapped, last⟩ := except_bind_eq_ok success
        cases last
        have products : ∀ part ∈ simplified, IsFlatProduct part := by
          intro part member
          obtain ⟨operand, inOperands, found⟩ := exists_of_mem_mapM mapped member
          exact (terms operand inOperands).isFlatProduct_of_simplify_eq_ok found
        rw [flatMap_summands_eq_self fun part member => (products part member).kind_ne_sum]
        exact Simplify.isFlatProduct_of_mem_summands_collectSum products
    | _ => cases isSum
  · rw [summands_eq_singleton isSum] at terms
    have product := (terms expr List.mem_cons_self).isFlatProduct_of_simplify_eq_ok success
    rw [summands_eq_singleton product.kind_ne_sum]
    exact List.forall_mem_singleton.mpr product

/-! ## Expansion -/

/-- The sign over the denominator has the sign of the exponent. -/
theorem num_rootExponent_neg {exponent : Fraction} (negative : exponent.num < 0) :
    (Expand.rootExponent exponent).num < 0 := by
  have denPositive : (0 : ℚ) < exponent.den := Nat.cast_pos.mpr exponent.den_pos
  rw [← Fraction.num_toRat, Rat.num_neg, Expand.rootExponent, Fraction.toRat_reduce,
    Fraction.sign, Int.sign_eq_neg_one_of_neg negative]
  exact div_neg_of_neg_of_pos (by norm_num) denPositive

theorem num_rootExponent_pos {exponent : Fraction} (positive : 0 < exponent.num) :
    0 < (Expand.rootExponent exponent).num := by
  have denPositive : (0 : ℚ) < exponent.den := Nat.cast_pos.mpr exponent.den_pos
  rw [← Fraction.num_toRat, Rat.num_pos, Expand.rootExponent, Fraction.toRat_reduce,
    Fraction.sign, Int.sign_eq_one_of_pos positive]
  exact div_pos (by norm_num) denPositive

/-- Expanding keeps all exponents positive. -/
theorem PositiveExponents.of_expand_eq_ok
    {expr expanded : Expr}
    (positive : PositiveExponents expr)
    (success : expr.expand = .ok expanded) :
    PositiveExponents expanded := by
  have inherited := isInherited_positiveExponents
  induction expr generalizing expanded with
  | number value =>
      cases expandsTo_of_expand_eq_ok success with
      | number => exact positive
  | symbol name =>
      cases expandsTo_of_expand_eq_ok success with
      | symbol => exact positive
  | sum operands hypothesis =>
      have each := (inherited.sum_iff operands).mp positive
      cases expandsTo_of_expand_eq_ok success with
      | sum mapped =>
          refine inherited.sumOf (inherited.flatMap_summands fun result member => ?_)
          obtain ⟨operand, inOperands, found⟩ := exists_of_mem_mapM mapped member
          exact hypothesis operand inOperands (each operand inOperands) found
  | product operands hypothesis =>
      have each := (inherited.product_iff operands).mp positive
      cases expandsTo_of_expand_eq_ok success with
      | product mapped =>
          refine inherited.distributeAll fun result member => ?_
          obtain ⟨operand, inOperands, found⟩ := exists_of_mem_mapM mapped member
          exact hypothesis operand inOperands (each operand inOperands) found
  | power base exponent hypothesis =>
      obtain ⟨basePositive, exponentPositive⟩ := positiveExponents_power_iff.mp positive
      cases expandsTo_of_expand_eq_ok success with
      | zero => exact inherited.number 1
      | one _ found => exact hypothesis basePositive found
      | unrolled _ _ found =>
          have unrolled := inherited.repeated (hypothesis basePositive found) exponent.num.natAbs
          unfold Expand.unroll
          dsimp only
          split
          · exact unrolled
          · exact positiveExponents_power_iff.mpr ⟨unrolled, num_rootExponent_pos exponentPositive⟩

/-- The powers that are met have natural exponents, or are chains, or are negative powers of
expressions with positive exponents. -/
inductive ExpandsFlat : Expr → Prop
  | number (value : Fraction) : ExpandsFlat (number value)
  | symbol (name : Symbol) : ExpandsFlat (symbol name)
  | sum {operands : List Expr} (each : ∀ operand ∈ operands, ExpandsFlat operand) :
      ExpandsFlat (sum operands)
  | product {operands : List Expr} (each : ∀ operand ∈ operands, ExpandsFlat operand) :
      ExpandsFlat (product operands)
  | natural {base : Expr} (exponent : Nat) (flat : ExpandsFlat base) :
      ExpandsFlat (power base (.ofInt exponent))
  | chain {base : Expr} (exponent : Fraction) (isChain : IsChain base) :
      ExpandsFlat (power base exponent)
  | inverse {base : Expr} {exponent : Fraction}
      (negative : exponent.num < 0)
      (positive : PositiveExponents base) :
      ExpandsFlat (power base exponent)

/-- The terms of the expansion are expanded terms. -/
theorem ExpandsFlat.isExpandedTerm_of_expand_eq_ok
    {expr expanded : Expr}
    (flat : ExpandsFlat expr)
    (success : expr.expand = .ok expanded) :
    ∀ term ∈ expanded.summands, IsExpandedTerm term := by
  have ofTerms := isTermProperty_isExpandedTerm
  induction flat generalizing expanded with
  | number value =>
      cases expandsTo_of_expand_eq_ok success with
      | number => exact ofTerms.alone (.number value)
  | symbol name =>
      cases expandsTo_of_expand_eq_ok success with
      | symbol => exact ofTerms.alone (.symbol name)
  | sum _ hypothesis =>
      cases expandsTo_of_expand_eq_ok success with
      | sum mapped =>
          intro term inSum
          have member := (perm_arrange _).mem_iff.mp inSum
          obtain ⟨result, inResults, inSummands⟩ := List.mem_flatMap.mp member
          obtain ⟨operand, inOperands, found⟩ := exists_of_mem_mapM mapped inResults
          exact hypothesis operand inOperands found term inSummands
  | product _ hypothesis =>
      cases expandsTo_of_expand_eq_ok success with
      | product mapped =>
          refine ofTerms.distributeAll fun result member => ?_
          obtain ⟨operand, inOperands, found⟩ := exists_of_mem_mapM mapped member
          exact hypothesis operand inOperands found
  | natural exponent _ hypothesis =>
      cases expandsTo_of_expand_eq_ok success with
      | zero => exact ofTerms.alone (.number 1)
      | one _ found => exact hypothesis found
      | unrolled nonzero notOne found =>
          have positive : 0 < (Fraction.ofInt exponent).num := by
            have := mt Fraction.ofInt_eq_zero_iff.mpr nonzero
            change 0 < (exponent : Int)
            omega
          rw [Expand.unroll, if_pos ⟨rfl, positive⟩]
          exact ofTerms.repeated (hypothesis found) _
  | chain exponent isChain =>
      have tower := (IsChain.power _ exponent isChain).isTower_of_expand_eq_ok success
      exact ofTerms.alone tower.isExpandedTerm
  | inverse negative positive =>
      cases expandsTo_of_expand_eq_ok success with
      | zero _ isZero => exact absurd negative (by simp [isZero])
      | one isOne => exact absurd negative (by simp [isOne])
      | unrolled nonzero notOne found =>
          have innerPositive := positive.of_expand_eq_ok found
          rw [Expand.unroll, if_neg fun both => Int.lt_asymm negative both.2]
          refine ofTerms.alone (.inverse (num_rootExponent_neg negative) ?_)
          exact isInherited_positiveExponents.repeated innerPositive _

/-- Expanding and then simplifying gives a flat sum of products if all powers that are met
have natural exponents, or are chains, or are negative powers of expressions with positive
exponents. -/
theorem isSumOfProducts_of_simplify_expand_eq_ok
    {expr result : Expr}
    (flat : ExpandsFlat expr)
    (success : (expr.expand >>= simplify) = .ok result) :
    IsSumOfProducts result := by
  obtain ⟨expanded, expandedSuccess, simplified⟩ := except_bind_eq_ok success
  have terms := flat.isExpandedTerm_of_expand_eq_ok expandedSuccess
  exact fun term member =>
    (isFlatProduct_of_mem_summands_simplify terms simplified term member).isFlatTerm

/-- The sum `x + 1` times the inverse root of `x + y^(1/2)` and the root of `z^2`. -/
def sumTimesInverseRoot : Expr :=
  productOf [sumOf [symbol .x, 1],
    power (sumOf [symbol .x, power (symbol .y) half]) (-half),
    power (power (symbol .z) 2) half]

/-- The sum `x + 1` is multiplied out, the chain over `z` comes down to `z`, and the other
sum stays under its exponent. -/
theorem isSumOfProducts_simplify_expand_sumTimesInverseRoot :
    WellFormed sumTimesInverseRoot ∧ ExpandsFlat sumTimesInverseRoot ∧
      ∃ result, (sumTimesInverseRoot.expand >>= simplify) = .ok result ∧
        result.summands.length = 2 ∧ IsSumOfProducts result := by
  have flat : ExpandsFlat sumTimesInverseRoot := by
    have isSum : ExpandsFlat (sumOf [symbol .x, 1]) := by
      have each : ∀ operand ∈ [symbol .x, 1], ExpandsFlat operand :=
        List.forall_mem_cons.mpr ⟨.symbol .x, List.forall_mem_singleton.mpr (.number 1)⟩
      exact .sum fun operand member => each operand ((perm_arrange _).mem_iff.mp member)
    have isInverse :
        ExpandsFlat (power (sumOf [symbol .x, power (symbol .y) half]) (-half)) :=
      .inverse (by decide +kernel) (by decide +kernel)
    have isChain : ExpandsFlat (power (power (symbol .z) 2) half) :=
      .chain half (.power _ _ (.leaf (.symbol .z)))
    have each := List.forall_mem_cons.mpr ⟨isSum, List.forall_mem_cons.mpr
      ⟨isInverse, List.forall_mem_singleton.mpr isChain⟩⟩
    exact .product fun operand member => each operand ((perm_arrange _).mem_iff.mp member)
  have success : (sumTimesInverseRoot.expand >>= simplify) =
      .ok (sum [
        product [symbol .x, symbol .z,
          power (sumOf [symbol .x, power (symbol .y) half]) (-half)],
        product [symbol .z, power (sumOf [symbol .x, power (symbol .y) half]) (-half)]]) := by
    decide +kernel
  exact ⟨by decide +kernel, flat, _, success, rfl,
    isSumOfProducts_of_simplify_expand_eq_ok flat success⟩

/-- The variable `z` times the inverse of the inverse of `x + y`. -/
def inverseOfInverse : Expr :=
  productOf [symbol .z, power (power (sumOf [symbol .x, symbol .y]) (-1)) (-1)]

/-- The two inverses cancel after the products are multiplied out, which leaves a sum among
the factors. -/
theorem not_isSumOfProducts_simplify_expand_inverseOfInverse :
    WellFormed inverseOfInverse ∧
      (inverseOfInverse.expand >>= simplify) =
        .ok (product [symbol .z, sum [symbol .x, symbol .y]]) ∧
      ¬IsSumOfProducts (product [symbol .z, sum [symbol .x, symbol .y]]) := by
  refine ⟨by decide +kernel, by decide +kernel, fun isSumOfProducts => ?_⟩
  have term := isSumOfProducts _ List.mem_cons_self
  exact (term.flat (sum [symbol .x, symbol .y]) (by simp [factors])).1 rfl

end Expr
end ExactAlgebra
