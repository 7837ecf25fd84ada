import ExactAlgebra.Proofs.Polynomial.Expanded
import ExactAlgebra.Proofs.RealValue.Collecting
import ExactAlgebra.Proofs.Simplify.Regular

/-!
# Rewriting keeps the real values of positive expressions

Simplification and expansion treat fractional exponents by the laws of powers:
exponents of a power of a power are multiplied, exact roots are drawn, a negative
irrational power is turned into a power of the inverse, and the numerator of an
exponent is unrolled under a root. For positive bases all these laws hold, and both
passes keep expressions positive, so they keep their real values.
-/

namespace ExactAlgebra

/-! ## Simplification -/

namespace Simplify

open ExactAlgebra.Expr

variable {assignment : Symbol → ℝ}

/-- A power of a positive constant keeps its value, exact or not. -/
theorem numberPower_of_positive
    {base exponent : Fraction}
    {result : Expr}
    (positive : 0 < base.toRat)
    (success : numberPower base exponent = .ok result) :
    Positive result ∧
      result.realValue assignment = (base.toRat : ℝ) ^ (exponent.toRat : ℝ) := by
  have realPositive : (0 : ℝ) < base.toRat := Rat.cast_pos.mpr positive
  unfold numberPower at success
  obtain ⟨answer, mapped, rest⟩ := except_bind_eq_ok success
  have power := eq_ok_of_mapError_eq_ok mapped
  cases answer with
  | some fraction =>
      cases rest
      have value := Fraction.toRat_of_pow_eq_some positive power
      refine ⟨.number fraction ?_, by rw [realValue_number, value]⟩
      rw [← Rat.cast_pos (K := ℝ), value]
      exact Real.rpow_pos_of_pos realPositive _
  | none =>
      dsimp only at rest
      split at rest
      · -- The inverse of the base takes the opposite exponent.
        obtain ⟨inverse, inverted, last⟩ := except_bind_eq_ok rest
        cases last
        have inverseValue :=
          Fraction.toRat_inverse_of_reciprocal_eq_ok positive (eq_ok_of_mapError_eq_ok inverted)
        constructor
        · refine .power _ _ (.number inverse ?_)
          rw [inverseValue]
          exact inv_pos.mpr positive
        · rw [realValue_power, realValue_number, inverseValue, Fraction.toRat_neg, Rat.cast_inv,
            Rat.cast_neg, Real.inv_rpow realPositive.le, Real.rpow_neg realPositive.le, inv_inv]
      · cases rest
        exact ⟨.power _ _ (.number base positive), by rw [realValue_power, realValue_number]⟩

variable (assigned : ∀ name, 0 < assignment name)
variable {simplifyPart : Expr → Except RewriteError Expr}
variable (keeps : KeepsPositiveValues assignment simplifyPart)

include assigned keeps in
/-- Raising a positive simplified base gives the real power of its value. -/
theorem raise_of_positive
    {base result : Expr}
    {exponent : Fraction}
    (positive : Positive base)
    (success : raise simplifyPart base exponent = .ok result) :
    Positive result ∧
      result.realValue assignment = base.realValue assignment ^ (exponent.toRat : ℝ) := by
  cases raisesTo_of_raise_eq_ok success with
  | zero _ isZero => exact ⟨.one, by simp [isZero]⟩
  | one _ isOne => exact ⟨positive, by simp [isOne]⟩
  | constant nonzero notOne found =>
      cases positive with
      | number value valuePositive =>
          rw [realValue_number]
          exact numberPower_of_positive valuePositive found
  | nested nonzero notOne found =>
      cases positive with
      | power _ _ innerPositive =>
          -- The exponents may be multiplied because the inner base is positive.
          obtain ⟨resultPositive, value⟩ := keeps _ result (.power _ _ innerPositive) found
          refine ⟨resultPositive, ?_⟩
          rw [value, realValue_power, realValue_power, Fraction.toRat_mul, Rat.cast_mul,
            Real.rpow_mul (innerPositive.realValue_pos assigned).le]
  | kept => exact ⟨.power base exponent positive, realValue_power assignment base exponent⟩

include assigned keeps in
/-- A step keeps positive values if the way it simplifies parts does. -/
theorem keepsPositiveValues_step :
    KeepsPositiveValues assignment (step simplifyPart) := by
  intro expr result positive success
  cases positive with
  | number value valuePositive => cases success; exact ⟨.number value valuePositive, rfl⟩
  | symbol name => cases success; exact ⟨.symbol name, rfl⟩
  | sum operands nonempty positive =>
      obtain ⟨simplified, mapped, last⟩ := except_bind_eq_ok success
      cases last
      obtain ⟨termsNonempty, termsPositive, total⟩ := positiveTerms_of_mapM_eq_ok nonempty
        (fun operand member result => keeps operand result (positive operand member)) mapped
      rw [realValue_sum, ← total]
      exact collectSum_of_positive assigned termsNonempty termsPositive
  | product operands positive =>
      obtain ⟨simplified, mapped, last⟩ := except_bind_eq_ok success
      obtain ⟨partsPositive, values⟩ := positiveValues_of_mapM_eq_ok
        (fun operand member result => keeps operand result (positive operand member)) mapped
      rw [realValue_product, ← values, ← prod_flatMap_factors]
      refine collectProduct_of_positive assigned keeps (fun factor member => ?_) last
      obtain ⟨part, inParts, inFactors⟩ := List.mem_flatMap.mp member
      exact (partsPositive part inParts).factors factor inFactors
  | power base exponent positive =>
      obtain ⟨simplified, part, last⟩ := except_bind_eq_ok success
      obtain ⟨simplifiedPositive, value⟩ := keeps base simplified positive part
      rw [realValue_power, ← value]
      exact raise_of_positive assigned keeps simplifiedPositive last

include assigned in
theorem keepsPositiveValues_toDepth (depth : Nat) :
    KeepsPositiveValues assignment (toDepth depth) := by
  induction depth with
  | zero =>
      intro expr result positive success
      cases success
      exact ⟨positive, rfl⟩
  | succ depth hypothesis => exact keepsPositiveValues_step assigned hypothesis

include assigned in
theorem keepsPositiveValues_simplify : KeepsPositiveValues assignment Expr.simplify :=
  fun expr => keepsPositiveValues_toDepth assigned (expr.weight + 1) expr

end Simplify

/-! ## Expansion -/

namespace Expand

open ExactAlgebra.Expr

/-- The sum over all pairs is the product of the sums. -/
theorem sum_flatMap_mul
    {joint : α → β → γ}
    {first : α → ℝ}
    {second : β → ℝ}
    {third : γ → ℝ}
    (agree : ∀ left right, third (joint left right) = first left * second right)
    (lefts : List α)
    (rights : List β) :
    ((lefts.flatMap fun left => rights.map (joint left)).map third).sum =
      (lefts.map first).sum * (rights.map second).sum := by
  induction lefts with
  | nil => simp
  | cons left lefts hypothesis =>
      have here : (third ∘ joint left) = fun right => first left * second right :=
        funext (agree left)
      rw [List.flatMap_cons, List.map_append, List.sum_append, hypothesis, List.map_map, here,
        List.sum_map_mul_left, List.map_cons, List.sum_cons, add_mul]

section RealValue

variable (assignment : Symbol → ℝ)

theorem realValue_distribute (left right : Expr) :
    (distribute left right).realValue assignment =
      left.realValue assignment * right.realValue assignment := by
  rw [distribute, realValue_sumOfTerms, ← sum_summands assignment left,
    ← sum_summands assignment right]
  refine sum_flatMap_mul (fun leftTerm rightTerm => ?_) left.summands right.summands
  simp [realValue_productOf]

theorem realValue_distributeAll (operands : List Expr) :
    (distributeAll operands).realValue assignment =
      (operands.map (realValue assignment)).prod := by
  cases operands with
  | nil => exact realValue_one assignment
  | cons first others =>
      rw [distributeAll]
      induction others generalizing first with
      | nil => simp
      | cons second others hypothesis =>
          rw [List.foldl_cons, hypothesis, List.map_cons, List.prod_cons, realValue_distribute]
          simp [mul_assoc]

/-- The sum over all ways to choose a term `count` times is the power of the sum. -/
theorem sum_selections (operands : List Expr) (count : Nat) :
    ((selections operands count).map
      fun choices => (choices.map (realValue assignment)).prod).sum =
        (operands.map (realValue assignment)).sum ^ count := by
  induction count with
  | zero => simp [selections]
  | succ count hypothesis =>
      rw [selections, pow_succ', ← hypothesis]
      exact sum_flatMap_mul (fun choice choices => by simp) operands (selections operands count)

theorem realValue_repeated (count : Nat) (base : Expr) :
    (repeated count base).realValue assignment = base.realValue assignment ^ count := by
  unfold repeated
  split
  · rename_i operands
    rw [realValue_sumOfTerms, List.map_map, realValue_sum, ← sum_selections]
    simp only [Function.comp_def, realValue_productOfFactors]
  · rw [realValue_productOfFactors, List.map_replicate, List.prod_replicate]

end RealValue

/-- The root of an unrolled power: its exponent is the sign over the denominator. -/
theorem natAbs_mul_rootExponent (exponent : Fraction) :
    (exponent.num.natAbs : ℝ) * ((rootExponent exponent).toRat : ℝ) = exponent.toRat := by
  have magnitude : (exponent.num.natAbs : ℝ) * exponent.num.sign = exponent.num := by
    rw [Nat.cast_natAbs, mul_comm]
    exact_mod_cast Int.sign_mul_abs exponent.num
  rw [rootExponent, Fraction.toRat_reduce, Fraction.sign, Rat.cast_div, Rat.cast_intCast,
    Rat.cast_natCast, ← mul_div_assoc, magnitude, ← Fraction.cast_toRat]

variable {assignment : Symbol → ℝ} (assigned : ∀ name, 0 < assignment name)

include assigned

theorem positive_distribute
    {left right : Expr}
    (leftPositive : Positive left)
    (rightPositive : Positive right) :
    Positive (distribute left right) := by
  have nonzero : (distribute left right).realValue assignment ≠ 0 := by
    rw [realValue_distribute]
    exact (mul_pos (leftPositive.realValue_pos assigned) (rightPositive.realValue_pos assigned)).ne'
  refine .sumOfTerms nonzero fun term member => ?_
  obtain ⟨leftTerm, inLeft, inPairs⟩ := List.mem_flatMap.mp member
  obtain ⟨rightTerm, inRight, rfl⟩ := List.mem_map.mp inPairs
  refine .productOf (List.forall_mem_cons.mpr ⟨leftPositive.summands.2 leftTerm inLeft, ?_⟩)
  exact List.forall_mem_singleton.mpr (rightPositive.summands.2 rightTerm inRight)

theorem positive_distributeAll
    {operands : List Expr}
    (positive : ∀ operand ∈ operands, Positive operand) :
    Positive (distributeAll operands) :=
  distributeAll_induction .one (fun _ _ => positive_distribute assigned) positive

theorem positive_repeated
    {base : Expr}
    (positive : Positive base)
    (count : Nat) :
    Positive (repeated count base) := by
  have nonzero : (repeated count base).realValue assignment ≠ 0 := by
    rw [realValue_repeated]
    exact (pow_pos (positive.realValue_pos assigned) count).ne'
  rw [repeated_eq] at nonzero ⊢
  refine .sumOfTerms nonzero fun term member => ?_
  obtain ⟨choices, selected, rfl⟩ := List.mem_map.mp member
  exact .productOfFactors fun choice inChoices =>
    positive.summands.2 choice (mem_of_mem_selections selected choice inChoices)

/-- Unrolling a power of a positive base keeps it positive, with its value. -/
theorem unroll_of_positive
    {base : Expr}
    (positive : Positive base)
    (exponent : Fraction) :
    Positive (unroll base exponent) ∧
      (unroll base exponent).realValue assignment =
        base.realValue assignment ^ (exponent.toRat : ℝ) := by
  have unrolled := positive_repeated assigned positive exponent.num.natAbs
  have value := realValue_repeated assignment exponent.num.natAbs base
  rw [unroll]
  split
  · rename_i integer
    have exponentEq : (exponent.toRat : ℝ) = exponent.num.natAbs := by
      rw [Fraction.eq_ofInt_of_isInteger integer.1, Fraction.toRat_ofInt, Fraction.num_ofInt,
        Rat.cast_intCast, Nat.cast_natAbs, abs_of_pos integer.2]
    exact ⟨unrolled, by rw [value, exponentEq, Real.rpow_natCast]⟩
  · refine ⟨.power _ _ unrolled, ?_⟩
    rw [realValue_power, value, ← Real.rpow_natCast,
      ← Real.rpow_mul (positive.realValue_pos assigned).le, natAbs_mul_rootExponent]

theorem keepsPositiveValues_expand : KeepsPositiveValues assignment Expr.expand := by
  intro expr result positive success
  induction positive generalizing result with
  | number value positive =>
      cases expandsTo_of_expand_eq_ok success with
      | number => exact ⟨.number value positive, rfl⟩
  | symbol name =>
      cases expandsTo_of_expand_eq_ok success with
      | symbol => exact ⟨.symbol name, rfl⟩
  | sum operands nonempty _ hypothesis =>
      cases expandsTo_of_expand_eq_ok success with
      | sum mapped =>
          obtain ⟨termsNonempty, termsPositive, total⟩ :=
            positiveTerms_of_mapM_eq_ok nonempty hypothesis mapped
          refine ⟨.sumOf termsNonempty termsPositive, ?_⟩
          rw [realValue_sumOf, realValue_sum, total]
  | product operands _ hypothesis =>
      cases expandsTo_of_expand_eq_ok success with
      | product mapped =>
          obtain ⟨partsPositive, values⟩ := positiveValues_of_mapM_eq_ok hypothesis mapped
          refine ⟨positive_distributeAll assigned partsPositive, ?_⟩
          rw [realValue_distributeAll, realValue_product, values]
  | power base exponent _ hypothesis =>
      rw [realValue_power]
      cases expandsTo_of_expand_eq_ok success with
      | zero _ isZero => exact ⟨.one, by simp [isZero]⟩
      | one isOne found =>
          obtain ⟨positive, value⟩ := hypothesis _ found
          exact ⟨positive, by simp [isOne, value]⟩
      | unrolled nonzero notOne found =>
          obtain ⟨positive, value⟩ := hypothesis _ found
          rw [← value]
          exact unroll_of_positive assigned positive exponent

end Expand

namespace Expr

/-- All constants of an expression are positive, and so are the real values of all that
occurs in it, the bases of its powers among them. -/
structure IsPositiveThroughout (assignment : Symbol → ℝ) (expr : Expr) : Prop where
  constants : ∀ value ∈ expr.constants, 0 < value.toRat
  parts : ∀ part : Expr, part.OccursIn expr → 0 < part.realValue assignment

theorem Positive.isPositiveThroughout
    {assignment : Symbol → ℝ}
    (assigned : ∀ name, 0 < assignment name)
    {expr : Expr}
    (positive : Positive expr) :
    expr.IsPositiveThroughout assignment where
  constants := positive.constants
  parts _ occurs := (occurs.inherits (fun _ => Positive.children) positive).realValue_pos assigned

/-- Simplification and expansion keep the real values of well-formed expressions with
positive constants and any rational exponents, when the variables have positive
values. All constants and all bases of the results are positive again. -/
theorem realValue_simplify_expand
    (assignment : Symbol → ℝ)
    (assigned : ∀ name, 0 < assignment name)
    {expr : Expr}
    (wellFormed : WellFormed expr)
    (positive : ∀ value ∈ expr.constants, 0 < value.toRat) :
    (∀ result, expr.simplify = .ok result →
        result.IsPositiveThroughout assignment ∧
          result.realValue assignment = expr.realValue assignment) ∧
      ∀ result, expr.expand = .ok result →
        result.IsPositiveThroughout assignment ∧
          result.realValue assignment = expr.realValue assignment := by
  have exprPositive := wellFormed.positive positive
  constructor
  · intro result success
    obtain ⟨resultPositive, kept⟩ :=
      Simplify.keepsPositiveValues_simplify assigned expr result exprPositive success
    exact ⟨resultPositive.isPositiveThroughout assigned, kept⟩
  · intro result success
    obtain ⟨resultPositive, kept⟩ :=
      Expand.keepsPositiveValues_expand assigned expr result exprPositive success
    exact ⟨resultPositive.isPositiveThroughout assigned, kept⟩

/-- The square root of `x`. -/
def squareRoot : Expr := power (symbol .x) (.reduce 1 2 (by decide))

/-- The product of `8 ^ (-2/3)`, twice the square root of `x`, and `(1 + x) ^ (2/3)`. -/
def productOfRoots : Expr :=
  product [power (number 8) (.reduce (-2) 3 (by decide)), squareRoot, squareRoot,
    power (sum [1, symbol .x]) (.reduce 2 3 (by decide))]

theorem realValue_simplify_expand_productOfRoots :
    ∃ simplified expanded,
      productOfRoots.simplify = .ok simplified ∧
        productOfRoots.expand = .ok expanded ∧
          WellFormed productOfRoots ∧
            (∀ value ∈ productOfRoots.constants, 0 < value.toRat) ∧
              (simplified.IsPositiveThroughout (fun _ => 3) ∧
                  simplified.realValue (fun _ => 3) = productOfRoots.realValue (fun _ => 3)) ∧
                expanded.IsPositiveThroughout (fun _ => 3) ∧
                  expanded.realValue (fun _ => 3) = productOfRoots.realValue (fun _ => 3) := by
  have simplified : productOfRoots.simplify =
      .ok (product [number (.reduce 1 4 (by decide)), symbol .x,
        power (sum [1, symbol .x]) (.reduce 2 3 (by decide))]) := by
    decide +kernel
  have expanded : productOfRoots.expand =
      .ok (productOf [
        productOf [
          productOf [power (product [8, 8]) (.reduce (-1) 3 (by decide)), squareRoot],
          squareRoot],
        power (sumOf [product [1, 1], product [1, symbol .x], product [1, symbol .x],
          product [symbol .x, symbol .x]]) (.reduce 1 3 (by decide))]) := by
    decide +kernel
  have base : WellFormed (sum [1, symbol .x]) :=
    .sum _ (by decide) (by decide +kernel)
      (List.forall_mem_cons.mpr ⟨.number 1, List.forall_mem_singleton.mpr (.symbol .x)⟩)
  have root : WellFormed squareRoot := .power _ _ (.symbol .x)
  have wellFormed : WellFormed productOfRoots := by
    refine .product _ (by decide) (by decide +kernel) ?_
    simp only [List.forall_mem_cons]
    exact ⟨.power _ _ (.number 8), root, root, .power _ _ base, List.forall_mem_nil _⟩
  have positive : ∀ value ∈ productOfRoots.constants, 0 < value.toRat := by
    decide +kernel
  obtain ⟨simplify, expand⟩ := realValue_simplify_expand (fun _ => 3) (fun _ => three_pos)
    wellFormed positive
  exact ⟨_, _, simplified, expanded, wellFormed, positive, simplify _ simplified,
    expand _ expanded⟩

end Expr
end ExactAlgebra
