import ExactAlgebra.Proofs.Derivative.DualNumber
import ExactAlgebra.Proofs.Evaluation.Basic
import ExactAlgebra.Rewrite.Derivative

/-!
# The value of the derivative

Where an expression has a value, its derivative has one too: the slope of the
expression when the value of the variable is perturbed by an infinitesimal. The
slope is what evaluation in the dual numbers adds to the value.
-/

namespace ExactAlgebra
namespace Derivative

open ExactAlgebra.Expr TrivSqZeroExt

/-- The assignment in the dual numbers that perturbs the value of one variable. -/
def perturb (target : Symbol) (assignment : Symbol → ℚ) (name : Symbol) : DualNumber ℚ :=
  inl (assignment name) + if name = target then DualNumber.eps else 0

variable (assignment : Symbol → ℚ) (target : Symbol)

/-- An expression and its derivative have the value and the slope of a dual number. -/
structure Follows (pair : Expr × Expr) (dual : DualNumber ℚ) : Prop where
  value : pair.1.eval assignment = some dual.fst
  slope : pair.2.eval assignment = some dual.snd

/-- The dual number is the value of the perturbed expression, and the expression and
its derivative follow it. -/
structure HasSlope (expr : Expr) (dual : DualNumber ℚ) : Prop extends
    Follows assignment (expr, expr.derivative target) dual where
  perturbed : expr.eval (perturb target assignment) = some dual

variable {assignment target}

/-! ## The product rule -/

/-- Operands whose derivative is literally zero have no slope. -/
theorem Follows.snd_eq_zero
    {pair : Expr × Expr}
    {dual : DualNumber ℚ}
    (follows : Follows assignment pair dual)
    (constant : pair.2 = 0) :
    dual.snd = 0 := by
  have slope := follows.slope
  rw [constant, eval_zero] at slope
  exact (Option.some.inj slope).symm

/-- Adding up what every pick contributes gives the slope of the product. -/
theorem sum_picks
    (dual : α → DualNumber ℚ)
    (members : List α) :
    ((picks members).map fun pick =>
      (pick.2.map fun other => (dual other).fst).prod * (dual pick.1).snd).sum =
      (members.map dual).prod.snd := by
  induction members with
  | nil => rfl
  | cons first others hypothesis =>
      have rest : ((picks others).map fun pick =>
          ((first :: pick.2).map fun other => (dual other).fst).prod * (dual pick.1).snd).sum =
          (dual first).fst * (others.map dual).prod.snd := by
        rw [← hypothesis, ← List.sum_map_mul_left]
        simp only [List.map_cons, List.prod_cons, mul_assoc]
      rw [picks, List.map_cons, List.sum_cons, List.map_map, List.map_cons, List.prod_cons,
        DualNumber.snd_mul, fst_prod, List.map_map]
      simp only [Function.comp_def]
      rw [rest]
      ring

/-- Picked elements and the others are members of the list. -/
theorem mem_of_mem_picks
    {members : List α}
    {pick : α × List α}
    (picked : pick ∈ picks members) :
    pick.1 ∈ members ∧ ∀ other ∈ pick.2, other ∈ members := by
  induction members generalizing pick with
  | nil => cases picked
  | cons first others hypothesis =>
      rw [picks, List.mem_cons, List.mem_map] at picked
      rcases picked with rfl | ⟨inner, innerPicked, rfl⟩
      · exact ⟨List.mem_cons_self, fun other => List.mem_cons_of_mem first⟩
      · obtain ⟨pickedMember, otherMembers⟩ := hypothesis innerPicked
        refine ⟨List.mem_cons_of_mem _ pickedMember, List.forall_mem_cons.mpr
          ⟨List.mem_cons_self, fun other member => List.mem_cons_of_mem _ ?_⟩⟩
        exact otherMembers other member

/-- The values of operands multiply to the value of the product of their dual
numbers. -/
theorem strictProduct_values
    {pairs : List (Expr × Expr)}
    {dual : Expr × Expr → DualNumber ℚ}
    (follows : ∀ pair ∈ pairs, Follows assignment pair (dual pair)) :
    strictProduct ((pairs.map Prod.fst).map (eval assignment)) =
      some (pairs.map fun pair => (dual pair).fst).prod := by
  rw [List.map_map]
  exact strictProduct_map_eq_some fun pair member => (follows pair member).value

/-- Factors without slope multiply the slope of the product of the others. -/
theorem snd_prod_eq_mul
    {pairs : List (Expr × Expr)}
    {dual : Expr × Expr → DualNumber ℚ}
    (follows : ∀ pair ∈ pairs, Follows assignment pair (dual pair)) :
    (pairs.map dual).prod.snd =
      ((pairs.filter fun pair => pair.2 = 0).map fun pair => (dual pair).fst).prod *
        ((pairs.filter fun pair => pair.2 ≠ 0).map dual).prod.snd := by
  have noSlope : ((pairs.filter fun pair => pair.2 = 0).map dual).prod.snd = 0 := by
    apply snd_prod_eq_zero
    intro value member
    obtain ⟨pair, inConstants, rfl⟩ := List.mem_map.mp member
    obtain ⟨inPairs, constant⟩ := List.mem_filter.mp inConstants
    exact (follows pair inPairs).snd_eq_zero (of_decide_eq_true constant)
  have perm := List.filter_append_perm (fun pair : Expr × Expr => pair.2 = 0) pairs
  rw [← (perm.map dual).prod_eq, List.map_append, List.prod_append, DualNumber.snd_mul, noSlope,
    zero_mul, add_zero, fst_prod, List.map_map]
  simp only [Function.comp_def, ne_eq, decide_not]

/-- The product rule evaluates to the slope of the product of dual numbers. -/
theorem eval_productRule
    {pairs : List (Expr × Expr)}
    {dual : Expr × Expr → DualNumber ℚ}
    (follows : ∀ pair ∈ pairs, Follows assignment pair (dual pair)) :
    (productRule pairs).eval assignment = some (pairs.map dual).prod.snd := by
  have constants := strictProduct_values
    (fun pair member => follows pair (List.mem_of_mem_filter member) :
      ∀ pair ∈ pairs.filter fun pair => pair.2 = 0, Follows assignment pair (dual pair))
  have varying : ∀ pair ∈ pairs.filter fun pair => pair.2 ≠ 0,
      Follows assignment pair (dual pair) :=
    fun pair member => follows pair (List.mem_of_mem_filter member)
  rw [snd_prod_eq_mul follows]
  unfold productRule
  dsimp only
  split
  · rename_i none
    rw [none, eval_zero]
    simp
  · rename_i operand derivative single
    have slope := (varying (operand, derivative) (single ▸ List.mem_singleton_self _)).slope
    rw [eval_productOf, List.map_append, strictProduct_append, constants, single,
      List.map_singleton, strictProduct_singleton, slope]
    simp
  · rw [eval_sumOf, List.map_map, ← sum_picks, ← List.sum_map_mul_left]
    apply strictSum_map_eq_some
    intro pick picked
    obtain ⟨pickedMember, otherMembers⟩ := mem_of_mem_picks picked
    have others := strictProduct_values fun pair member => varying pair (otherMembers pair member)
    rw [Function.comp_apply, eval_productOf, List.map_append, strictProduct_append, others,
      List.map_cons, strictProduct_cons, (varying pick.1 pickedMember).slope, constants]
    simp only [Option.map₂_some_some]
    congr 1
    ring

/-! ## The power rule -/

/-- The power rule evaluates to the slope of the power of a dual number. -/
theorem eval_powerRule
    {base inner : Expr}
    {exponent : ℤ}
    {dual : DualNumber ℚ}
    (follows : Follows assignment (base, inner) dual)
    (defined : dual.fst ≠ 0 ∨ 0 < exponent - 1) :
    (powerRule base (.ofInt exponent) inner).eval assignment =
      some (dualPower dual exponent).snd := by
  have lower : (power base (.ofInt exponent - 1)).eval assignment =
      some (dual.fst ^ (exponent - 1)) := by
    have exponentEq : Fraction.ofInt exponent - 1 = .ofInt (exponent - 1) := by
      apply Fraction.toRat_injective
      simp
    rw [exponentEq, eval_power, follows.value, Option.bind_some, rationalPower_ofInt,
      integerPower_eq_zpow defined]
  have coefficient : (number (.ofInt exponent)).eval assignment = some (exponent : ℚ) := by
    rw [eval_number, Fraction.toRat_ofInt]
    rfl
  have slope := follows.slope
  rw [snd_dualPower]
  unfold powerRule
  split
  · rename_i isZero
    rw [isZero, eval_zero] at slope
    rw [eval_zero, ← Option.some.inj slope, mul_zero]
  · split
    · rename_i isOne
      rw [isOne, eval_one] at slope
      rw [eval_productOf, ← Option.some.inj slope, mul_one]
      simp only [List.map_cons, List.map_nil, strictProduct_cons, strictProduct_nil, coefficient,
        lower, Option.map₂_some_some, mul_one]
    · rw [eval_productOf]
      dsimp only at slope
      simp only [List.map_cons, List.map_nil, strictProduct_cons, strictProduct_nil, coefficient,
        lower, slope, Option.map₂_some_some, mul_one, mul_assoc]

/-! ## Derivatives -/

theorem derivatives_eq_map (target : Symbol) (operands : List Expr) :
    derivatives target operands = operands.map (derivative target) := by
  induction operands with
  | nil => rfl
  | cons operand operands hypothesis => rw [derivatives, hypothesis, List.map_cons]

/-- Terms that are literally zero add nothing to a sum. -/
theorem strictSum_filter_ne_zero (terms : List Expr) :
    strictSum ((terms.filter (· ≠ 0)).map (eval assignment)) =
      strictSum (terms.map (eval assignment)) := by
  induction terms with
  | nil => rfl
  | cons term terms hypothesis =>
      rw [List.filter_cons]
      split
      · rw [List.map_cons, strictSum_cons, hypothesis, List.map_cons, strictSum_cons]
      · rename_i isZero
        have termEq : term = 0 := by simpa using isZero
        rw [hypothesis, List.map_cons, strictSum_cons, termEq, eval_zero]
        cases strictSum (terms.map (eval assignment)) <;> simp

theorem hasSlope_number (value : Fraction) :
    HasSlope assignment target (number value) (inl value.toRat) := by
  refine ⟨⟨?_, ?_⟩, ?_⟩
  · exact eval_number assignment value
  · dsimp only [derivative]
    exact eval_zero assignment
  · exact eval_number _ value

theorem hasSlope_symbol (name : Symbol) :
    HasSlope assignment target (symbol name) (perturb target assignment name) := by
  refine ⟨⟨?_, ?_⟩, ?_⟩
  · rw [eval_symbol, perturb, fst_add, fst_inl]
    split <;> simp
  · dsimp only [derivative]
    rw [perturb, snd_add, snd_inl]
    split <;> simp
  · exact eval_symbol _ name

/-- A sum has the sum of the slopes. -/
theorem hasSlope_sum
    {operands : List Expr}
    {dual : Expr → DualNumber ℚ}
    (each : ∀ operand ∈ operands, HasSlope assignment target operand (dual operand)) :
    HasSlope assignment target (sum operands) (operands.map dual).sum := by
  refine ⟨⟨?_, ?_⟩, ?_⟩
  · rw [eval_sum, Derivative.fst_sum, List.map_map]
    exact strictSum_map_eq_some fun operand member => (each operand member).value
  · rw [derivative, derivatives_eq_map, eval_sumOfTerms, strictSum_filter_ne_zero,
      List.map_map, Derivative.snd_sum, List.map_map]
    exact strictSum_map_eq_some fun operand member => (each operand member).slope
  · rw [eval_sum]
    exact strictSum_map_eq_some fun operand member => (each operand member).perturbed

/-- A product has the slope of the product rule. -/
theorem hasSlope_product
    {operands : List Expr}
    {dual : Expr → DualNumber ℚ}
    (each : ∀ operand ∈ operands, HasSlope assignment target operand (dual operand)) :
    HasSlope assignment target (product operands) (operands.map dual).prod := by
  refine ⟨⟨?_, ?_⟩, ?_⟩
  · rw [eval_product, fst_prod, List.map_map]
    exact strictProduct_map_eq_some fun operand member => (each operand member).value
  · have pairs : operands.zip (derivatives target operands) =
        operands.map fun operand => (operand, operand.derivative target) := by
      rw [derivatives_eq_map]
      have zipped := @List.zip_map' _ _ _ id (derivative target) operands
      rwa [List.map_id] at zipped
    have slope := @eval_productRule assignment (operands.zip (derivatives target operands))
      (fun pair => dual pair.1) ?_
    · rw [derivative, slope, pairs, List.map_map]
      rfl
    · rw [pairs]
      exact List.forall_mem_map.mpr fun operand member => (each operand member).toFollows
  · rw [eval_product]
    exact strictProduct_map_eq_some fun operand member => (each operand member).perturbed

/-- A power has the slope of the power rule, where it has a value. -/
theorem hasSlope_power
    {base : Expr}
    {exponent : Fraction}
    {dual : DualNumber ℚ}
    {value : ℚ}
    (baseSlope : HasSlope assignment target base dual)
    (defined : rationalPower dual.fst exponent = some value) :
    ∃ result, HasSlope assignment target (power base exponent) result := by
  obtain ⟨integer, rfl, rational⟩ := exists_integer_of_rationalPower_eq_some defined
  have powerDefined := ne_zero_or_pos_of_integerPower_eq_some rational
  refine ⟨dualPower dual integer, ⟨?_, ?_⟩, ?_⟩
  · rw [eval_power, baseSlope.value, Option.bind_some, rationalPower_ofInt,
      integerPower_eq_zpow powerDefined, fst_dualPower]
  · dsimp only [derivative]
    split
    · rename_i isZero
      have integerEq : integer = 0 := congrArg Fraction.num isZero
      rw [eval_zero, snd_dualPower, integerEq, Int.cast_zero, zero_mul, zero_mul]
    · split
      · rename_i isOne
        have integerEq : integer = 1 := congrArg Fraction.num isOne
        rw [baseSlope.slope, snd_dualPower, integerEq]
        simp
      · rename_i notZero notOne
        have integerNotOne : integer ≠ 1 := fun isOne => notOne (congrArg Fraction.ofInt isOne)
        -- The base zero has positive powers only, and the first power is no case of this rule.
        exact eval_powerRule baseSlope.toFollows (powerDefined.imp_right fun positive => by omega)
  · rw [eval_power, baseSlope.perturbed, Option.bind_some, rationalPower_ofInt,
      integerPower_dual powerDefined]

/-- Where an expression has a value, it has a slope, and its derivative has the slope
as its value. -/
theorem exists_hasSlope
    {expr : Expr}
    {value : ℚ}
    (defined : expr.eval assignment = some value) :
    ∃ dual, HasSlope assignment target expr dual := by
  induction expr generalizing value with
  | number constant => exact ⟨_, hasSlope_number constant⟩
  | symbol name => exact ⟨_, hasSlope_symbol name⟩
  | sum operands hypothesis =>
      rw [eval_sum] at defined
      have each : ∀ operand ∈ operands, ∃ dual, HasSlope assignment target operand dual := by
        intro operand member
        obtain ⟨part, partDefined⟩ := exists_eq_some_of_strictFold_eq_some _ _ defined member
        exact hypothesis operand member partDefined
      choose! dual slopes using each
      exact ⟨_, hasSlope_sum slopes⟩
  | product operands hypothesis =>
      rw [eval_product] at defined
      have each : ∀ operand ∈ operands, ∃ dual, HasSlope assignment target operand dual := by
        intro operand member
        obtain ⟨part, partDefined⟩ := exists_eq_some_of_strictFold_eq_some _ _ defined member
        exact hypothesis operand member partDefined
      choose! dual slopes using each
      exact ⟨_, hasSlope_product slopes⟩
  | power base exponent hypothesis =>
      obtain ⟨inner, baseValue, outerPower⟩ := (eval_power_eq_some_iff assignment).mp defined
      obtain ⟨dual, baseSlope⟩ := hypothesis baseValue
      have innerEq : inner = dual.fst := by
        have same := baseSlope.value
        rw [baseValue] at same
        exact Option.some.inj same
      rw [innerEq] at outerPower
      exact hasSlope_power baseSlope outerPower

end Derivative

namespace Expr

/-- Where an expression has a value, its derivative has one: the slope that evaluation
in the dual numbers finds when the value of the variable is perturbed. -/
theorem eval_derivative
    (target : Symbol)
    (assignment : Symbol → ℚ)
    {expr : Expr}
    {value : ℚ}
    (defined : expr.eval assignment = some value) :
    ∃ dual : DualNumber ℚ,
      expr.eval (Derivative.perturb target assignment) = some dual ∧
        dual.fst = value ∧ (expr.derivative target).eval assignment = some dual.snd := by
  obtain ⟨dual, slope⟩ := @Derivative.exists_hasSlope assignment target expr value defined
  have sameValue := slope.value
  rw [defined] at sameValue
  exact ⟨dual, slope.perturbed, (Option.some.inj sameValue).symm, slope.slope⟩

/-- The square of `x`, divided by `y`. -/
def squareOverSymbol : Expr :=
  product [power (symbol .x) (.ofInt 2), power (symbol .y) (.ofInt (-1))]

theorem eval_derivative_squareOverSymbol :
    squareOverSymbol.eval (fun _ => (2 : ℚ)) = some 2 ∧
      ∃ dual : DualNumber ℚ,
        squareOverSymbol.eval (Derivative.perturb .x fun _ => 2) = some dual ∧
          dual.fst = 2 ∧
            (squareOverSymbol.derivative .x).eval (fun _ => (2 : ℚ)) =
              some dual.snd := by
  have defined : squareOverSymbol.eval (fun _ => (2 : ℚ)) = some 2 := by
    simp only [squareOverSymbol, eval_product, eval_power, eval_symbol, List.map_cons,
      List.map_nil, strictProduct_cons, strictProduct_nil, Option.bind_some, rationalPower_ofInt,
      integerPower_rat]
    norm_num
  exact ⟨defined, eval_derivative _ _ defined⟩

end Expr
end ExactAlgebra
