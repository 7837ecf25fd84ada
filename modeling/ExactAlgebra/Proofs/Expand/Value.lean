import ExactAlgebra.Proofs.Evaluation.Basic
import ExactAlgebra.Proofs.FailingMap
import ExactAlgebra.Rewrite.Cases

/-!
# Expansion keeps values

Multiplying out is the distributive law: the sum over all pairs of terms is the
product of the two sums, and the sum over all ways to choose a term again and again
is the power of the sum. So expansion keeps values in every commutative algebra over
the rational numbers.
-/

namespace ExactAlgebra
namespace Expand

open ExactAlgebra.Expr

variable {K : Type*} [CommRing K]

/-! ## The distributive law -/

/-- One factor distributes over a sum. -/
theorem strictSum_map_mul
    {joint : β → γ}
    {second : β → Option K}
    {third : γ → Option K}
    {value : K}
    (agree : ∀ right rightValue,
      second right = some rightValue → third (joint right) = some (value * rightValue))
    {rights : List β}
    {total : K}
    (defined : strictSum (rights.map second) = some total) :
    strictSum ((rights.map joint).map third) = some (value * total) := by
  induction rights generalizing total with
  | nil =>
      cases defined
      rw [mul_zero]
      rfl
  | cons right rights hypothesis =>
      obtain ⟨first, rest, head, tail, rfl⟩ := strictFold_cons_eq_some _ _ defined
      rw [List.map_cons, List.map_cons, strictSum_cons, agree right first head, hypothesis tail,
        Option.map₂_some_some, mul_add]

/-- The sum over all pairs is the product of the sums. -/
theorem strictSum_flatMap_mul
    {joint : α → β → γ}
    {first : α → Option K}
    {second : β → Option K}
    {third : γ → Option K}
    (agree : ∀ left right leftValue rightValue, first left = some leftValue →
      second right = some rightValue → third (joint left right) = some (leftValue * rightValue))
    {lefts : List α}
    {rights : List β}
    {leftTotal rightTotal : K}
    (leftDefined : strictSum (lefts.map first) = some leftTotal)
    (rightDefined : strictSum (rights.map second) = some rightTotal) :
    strictSum ((lefts.flatMap fun left => rights.map (joint left)).map third) =
      some (leftTotal * rightTotal) := by
  induction lefts generalizing leftTotal with
  | nil =>
      cases leftDefined
      rw [zero_mul]
      rfl
  | cons left lefts hypothesis =>
      obtain ⟨value, rest, head, tail, rfl⟩ := strictFold_cons_eq_some _ _ leftDefined
      have here := strictSum_map_mul
        (fun right rightValue => agree left right value rightValue head) rightDefined
      rw [List.flatMap_cons, List.map_append, strictSum_append, here, hypothesis tail,
        Option.map₂_some_some, add_mul]

variable [Algebra ℚ K] {assignment : Symbol → K}

/-- Multiplying out two expressions gives their product. -/
theorem eval_distribute
    {left right : Expr}
    {leftValue rightValue : K}
    (leftDefined : left.eval assignment = some leftValue)
    (rightDefined : right.eval assignment = some rightValue) :
    (distribute left right).eval assignment = some (leftValue * rightValue) := by
  rw [← strictSum_summands] at leftDefined rightDefined
  rw [distribute, eval_sumOfTerms]
  refine strictSum_flatMap_mul ?_ leftDefined rightDefined
  intro leftTerm rightTerm first second firstDefined secondDefined
  rw [eval_productOf, List.map_cons, List.map_cons, List.map_nil, strictProduct_cons,
    strictProduct_singleton, firstDefined, secondDefined, Option.map₂_some_some]

/-- Multiplying expressions from left to right gives their product. -/
theorem eval_distributeAll
    {operands : List Expr}
    {value : K}
    (defined : strictProduct (operands.map (eval assignment)) = some value) :
    (distributeAll operands).eval assignment = some value := by
  cases operands with
  | nil =>
      rw [distributeAll, eval_one]
      exact defined
  | cons first others =>
      obtain ⟨firstValue, rest, head, tail, rfl⟩ := strictFold_cons_eq_some _ _ defined
      rw [distributeAll]
      clear defined
      induction others generalizing first firstValue rest with
      | nil =>
          cases tail
          rw [List.foldl_nil, head, mul_one]
      | cons second others hypothesis =>
          obtain ⟨secondValue, rest, secondDefined, othersDefined, rfl⟩ :=
            strictFold_cons_eq_some _ _ tail
          rw [List.foldl_cons, ← mul_assoc]
          exact hypothesis _ _ _ (eval_distribute head secondDefined) othersDefined

/-! ## Powers -/

/-- The sum over all ways to choose a term `count` times is the power of the sum. -/
theorem strictSum_selections
    {operands : List Expr}
    {value : K}
    (defined : strictSum (operands.map (eval assignment)) = some value)
    (count : Nat) :
    strictSum ((selections operands count).map
      fun choices => strictProduct (choices.map (eval assignment))) = some (value ^ count) := by
  induction count with
  | zero =>
      rw [selections, List.map_singleton, strictSum_singleton, pow_zero]
      rfl
  | succ count hypothesis =>
      rw [selections, pow_succ']
      refine strictSum_flatMap_mul ?_ defined hypothesis
      intro choice choices first others firstDefined othersDefined
      rw [List.map_cons, strictProduct_cons, firstDefined, othersDefined, Option.map₂_some_some]

/-- A repeated product is a power. -/
theorem eval_repeated
    {base : Expr}
    {value : K}
    (defined : base.eval assignment = some value)
    (count : Nat) :
    (repeated count base).eval assignment = some (value ^ count) := by
  have copies : (productOfFactors (List.replicate count base)).eval assignment =
      some (value ^ count) := by
    have each : ∀ factor ∈ List.replicate count base,
        factor.eval assignment = some (Function.const Expr value factor) := by
      intro factor member
      rw [List.eq_of_mem_replicate member, defined]
      rfl
    rw [eval_productOfFactors, strictProduct_map_eq_some each, List.map_const,
      List.length_replicate, List.prod_replicate]
  cases base with
  | sum operands =>
      rw [eval_sum] at defined
      rw [repeated, eval_sumOfTerms, List.map_map]
      simpa only [Function.comp_def, eval_productOfFactors] using
        strictSum_selections defined count
  | number _ => exact copies
  | symbol _ => exact copies
  | product _ => exact copies
  | power _ _ => exact copies

@[simp] theorem rootExponent_ofInt (exponent : Int) :
    rootExponent (.ofInt exponent) = .ofInt exponent.sign := by
  apply Fraction.toRat_injective
  rw [rootExponent, Fraction.toRat_reduce, Fraction.toRat_ofInt]
  simp [Fraction.sign]

/-- Unrolling a power keeps its value. -/
theorem eval_unroll
    {base : Expr}
    {exponent : Fraction}
    {baseValue value : K}
    (nonzero : exponent ≠ 0)
    (baseDefined : base.eval assignment = some baseValue)
    (defined : rationalPower baseValue exponent = some value) :
    (unroll base exponent).eval assignment = some value := by
  obtain ⟨integer, rfl, power⟩ := exists_integer_of_rationalPower_eq_some defined
  have unrolled := eval_repeated baseDefined integer.natAbs
  have integerNonzero : integer ≠ 0 := mt (congrArg Fraction.ofInt) nonzero
  rw [unroll, Fraction.num_ofInt]
  split
  · rename_i positive
    have magnitude : integer.natAbs = integer.toNat := by omega
    rw [integerPower_of_pos baseValue positive.2] at power
    rw [unrolled, ← power, magnitude]
  · rename_i notPositive
    have negative : integer < 0 := by
      have : ¬0 < integer := fun positive => notPositive ⟨rfl, positive⟩
      omega
    have invertible : IsUnit baseValue := by
      by_contra singular
      have positive := (pos_of_integerPower_eq_some singular power).1
      omega
    obtain ⟨unit, rfl⟩ := invertible
    have inverted : ((unit ^ integer.natAbs : Kˣ) ^ (-1 : Int) : Kˣ) = unit ^ integer := by
      rw [← zpow_natCast, ← zpow_mul]
      congr 1
      omega
    rw [integerPower_unit] at power
    rw [eval_power, unrolled, Option.bind_some, rootExponent_ofInt,
      Int.sign_eq_neg_one_of_neg negative, rationalPower_ofInt, ← Units.val_pow_eq_pow_val,
      integerPower_unit, inverted, power]

end Expand

namespace Expr

variable {K : Type*} [CommRing K] [Algebra ℚ K] (assignment : Symbol → K)

/-- Expansion keeps values in every commutative algebra over the rational numbers. -/
theorem keepsValues_expand : KeepsValues assignment expand := by
  intro expr result value success defined
  induction expr generalizing result value with
  | number constant =>
      cases expandsTo_of_expand_eq_ok success with
      | number => exact defined
  | symbol name =>
      cases expandsTo_of_expand_eq_ok success with
      | symbol => exact defined
  | sum operands hypothesis =>
      cases expandsTo_of_expand_eq_ok success with
      | sum mapped =>
          rw [eval_sum] at defined
          rw [eval_sumOf, strictSum_flatMap_summands]
          refine strictFold_forall₂ _ _ (forall₂_of_mapM_eq_ok mapped ?_) defined
          intro operand member part found value
          exact hypothesis operand member part value found
  | product operands hypothesis =>
      cases expandsTo_of_expand_eq_ok success with
      | product mapped =>
          rw [eval_product] at defined
          apply Expand.eval_distributeAll
          refine strictFold_forall₂ _ _ (forall₂_of_mapM_eq_ok mapped ?_) defined
          intro operand member part found value
          exact hypothesis operand member part value found
  | power base exponent hypothesis =>
      obtain ⟨inner, baseValue, outerPower⟩ := (eval_power_eq_some_iff assignment).mp defined
      cases expandsTo_of_expand_eq_ok success with
      | zero _ isZero =>
          rw [isZero] at outerPower
          rw [eval_one, eq_one_of_rationalPower_zero outerPower]
      | one isOne found =>
          rw [isOne, rationalPower_one] at outerPower
          rw [hypothesis _ inner found baseValue, outerPower]
      | unrolled nonzero notOne found =>
          exact Expand.eval_unroll nonzero (hypothesis _ inner found baseValue) outerPower

/-- Where an expression has a rational value, its expanded form has the same value. -/
theorem eval_expand
    (assignment : Symbol → ℚ)
    {expr result : Expr}
    {value : ℚ}
    (expanded : expr.expand = .ok result)
    (defined : expr.eval assignment = some value) :
    result.eval assignment = some value :=
  keepsValues_expand assignment expr result value expanded defined

/-- The inverse square of `x + y`, times `x + 1`. -/
def invertedSquare : Expr :=
  product [power (sum [symbol .x, symbol .y]) (.ofInt (-2)), sum [number (.ofInt 1), symbol .x]]

theorem eval_expand_invertedSquare :
    ∃ result,
      invertedSquare.expand = .ok result ∧
        invertedSquare.eval (fun _ => (2 : ℚ)) = some (3 / 16) ∧
          result.eval (fun _ => (2 : ℚ)) = some (3 / 16) := by
  have expanded : invertedSquare.expand =
      .ok (sumOf ([number (.ofInt 1), symbol .x].map fun term =>
        productOf [
          power (sumOf [productOf [symbol .x, symbol .x], productOf [symbol .x, symbol .y],
            productOf [symbol .y, symbol .x], productOf [symbol .y, symbol .y]]) (.ofInt (-1)),
          term])) := by
    decide +kernel
  have defined : invertedSquare.eval (fun _ => (2 : ℚ)) = some (3 / 16) := by
    simp only [invertedSquare, eval_product, eval_power, eval_symbol, eval_sum, eval_number,
      List.map_cons, List.map_nil, strictProduct_cons, strictProduct_nil, strictSum_cons,
      strictSum_nil, Option.map₂_some_some, Option.bind_some, rationalPower_ofInt,
      integerPower_rat, Fraction.toRat_ofInt]
    norm_num
  exact ⟨_, expanded, defined, eval_expand _ expanded defined⟩

end Expr
end ExactAlgebra
