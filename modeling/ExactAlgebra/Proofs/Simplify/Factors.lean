import ExactAlgebra.Proofs.Evaluation.Basic
import ExactAlgebra.Proofs.FailingMap
import ExactAlgebra.Proofs.Tally
import ExactAlgebra.Rewrite.Cases

/-!
# Collecting factors keeps values

Factors are multiplied under a tally of their exponents. The exponents of a base
add up, which is right even for a base with value zero: it has positive powers
only, so the product of its powers is zero and its total exponent is positive. In
particular a base whose total exponent is zero cannot have the value zero.
-/

namespace ExactAlgebra
namespace Simplify

open ExactAlgebra.Expr

/-- Multiplying fractions multiplies their values. -/
theorem toRat_foldl_mul (start : Fraction) (values : List Fraction) :
    (values.foldl (· * ·) start).toRat = start.toRat * (values.map Fraction.toRat).prod := by
  induction values generalizing start with
  | nil => simp
  | cons value values hypothesis =>
      rw [List.foldl_cons, hypothesis, Fraction.toRat_mul, List.map_cons, List.prod_cons,
        mul_assoc]

variable {K : Type*} [CommRing K] [Algebra ℚ K] (assignment : Symbol → K)

/-- The constants among factors have the constant factor as their product. -/
theorem strictProduct_constants (operands : List Expr) :
    strictProduct ((operands.filter (·.isNumber)).map (eval assignment)) =
      some (algebraMap ℚ K (constantFactor operands).toRat) := by
  rw [constantFactor, toRat_foldl_mul, Fraction.toRat_one, one_mul]
  induction operands with
  | nil => simp
  | cons operand operands hypothesis =>
      cases operand with
      | number value =>
          rw [List.filter_cons_of_pos rfl, List.map_cons, strictProduct_cons, hypothesis,
            eval_number, Option.map₂_some_some, ← map_mul]
          rfl
      | _ => exact hypothesis

/-- A defined product is its constant factor times the product of the rest. -/
theorem exists_of_strictProduct_eq_some
    {operands : List Expr}
    {total : K}
    (defined : strictProduct (operands.map (eval assignment)) = some total) :
    ∃ rest,
      strictProduct ((operands.filter (!·.isNumber)).map (eval assignment)) = some rest ∧
        algebraMap ℚ K (constantFactor operands).toRat * rest = total := by
  have split : Option.map₂ (· * ·)
        (strictProduct ((operands.filter (·.isNumber)).map (eval assignment)))
        (strictProduct ((operands.filter (!·.isNumber)).map (eval assignment))) =
      strictProduct (operands.map (eval assignment)) :=
    strictFold_map_filter _ _ (eval assignment) (·.isNumber) operands
  rw [strictProduct_constants, defined, Option.map₂_eq_some_iff] at split
  obtain ⟨constant, rest, isConstant, restValue, product⟩ := split
  cases isConstant
  exact ⟨rest, restValue, product⟩

/-- The value of a base with an exponent. -/
noncomputable def factorValue (entry : Expr × Fraction) : Option K :=
  (entry.1.eval assignment).bind fun value => rationalPower value entry.2

theorem factorValue_eq_some_iff {entry : Expr × Fraction} {result : K} :
    factorValue assignment entry = some result ↔
      ∃ value, entry.1.eval assignment = some value ∧ rationalPower value entry.2 = some result :=
  Option.bind_eq_some_iff

theorem factorValue_one (base : Expr) :
    factorValue assignment (base, 1) = base.eval assignment := by
  unfold factorValue
  cases base.eval assignment with
  | none => rfl
  | some value => exact rationalPower_one value

/-- Splitting a factor into base and exponent keeps its value. -/
theorem factorValue_splitFactor (factor : Expr) :
    factorValue assignment (splitFactor factor) = factor.eval assignment := by
  unfold splitFactor
  split
  · rw [eval_power]
    rfl
  · exact factorValue_one assignment factor

/-- The exponents of a base add up. -/
theorem factorValue_add
    (key : Expr)
    (first second : Fraction)
    (left right : K)
    (leftValue : factorValue assignment (key, first) = some left)
    (rightValue : factorValue assignment (key, second) = some right) :
    factorValue assignment (key, first + second) = some (left * right) := by
  obtain ⟨value, defined, leftPower⟩ := (factorValue_eq_some_iff assignment).mp leftValue
  obtain ⟨same, again, rightPower⟩ := (factorValue_eq_some_iff assignment).mp rightValue
  cases defined.symm.trans again
  exact (factorValue_eq_some_iff assignment).mpr
    ⟨value, defined, rationalPower_add leftPower rightPower⟩

/-- The factors that a tallied exponent leaves have the value of the entry. -/
theorem strictProduct_collectedFactor
    {simplifyPart : Expr → Except RewriteError Expr}
    (keeps : KeepsValues assignment simplifyPart)
    {entry : Expr × Fraction}
    {factors : List Expr}
    {value : K}
    (collected : collectedFactor simplifyPart entry = .ok factors)
    (defined : factorValue assignment entry = some value) :
    strictProduct (factors.map (eval assignment)) = some value := by
  obtain ⟨base, baseValue, power⟩ := (factorValue_eq_some_iff assignment).mp defined
  cases collectsTo_of_collectedFactor_eq_ok collected with
  | zero isZero =>
      rw [isZero] at power
      rw [eq_one_of_rationalPower_zero power]
      rfl
  | one isOne =>
      rw [isOne, rationalPower_one] at power
      rw [List.map_singleton, strictProduct_singleton, baseValue, power]
  | power nonzero notOne found =>
      rw [List.map_singleton, strictProduct_singleton]
      apply keeps _ _ _ found
      exact (eval_power_eq_some_iff assignment).mpr ⟨base, baseValue, power⟩

/-- Collecting the factors of a tally keeps a defined product. -/
theorem strictProduct_collected
    {simplifyPart : Expr → Except RewriteError Expr}
    (keeps : KeepsValues assignment simplifyPart)
    {tally : Tally Expr}
    {collected : List (List Expr)}
    {total : K}
    (success : tally.mapM (collectedFactor simplifyPart) = .ok collected)
    (defined : strictProduct (tally.map (factorValue assignment)) = some total) :
    strictProduct (collected.flatten.map (eval assignment)) = some total := by
  have whole : strictProduct
      (collected.map fun factors => strictProduct (factors.map (eval assignment))) =
        some total := by
    apply strictFold_forall₂ _ _ _ defined
    exact (mapM_eq_ok_iff.mp success).imp fun _ _ result _ =>
      strictProduct_collectedFactor assignment keeps result
  rw [← List.flatMap_id]
  exact (strictFold_map_flatMap _ _ (fun _ => rfl) collected).trans whole

theorem eval_assembleProduct
    {coefficient : Fraction}
    {operands : List Expr}
    {value : K}
    (defined : strictProduct (operands.map (eval assignment)) = some value) :
    (assembleProduct coefficient operands).eval assignment =
      some (algebraMap ℚ K coefficient.toRat * value) := by
  unfold assembleProduct
  split
  · rename_i isZero
    rw [eval_zero, isZero, Fraction.toRat_zero, map_zero, zero_mul]
  · split
    · rename_i isOne
      rw [eval_productOfFactors, defined, isOne, Fraction.toRat_one, map_one, one_mul]
    · rw [eval_productOfFactors, List.map_append, strictProduct_append, defined,
        List.map_singleton, strictProduct_singleton, eval_number, Option.map₂_some_some, mul_comm]

/-- Collecting factors keeps a defined product. -/
theorem eval_collectProduct
    {simplifyPart : Expr → Except RewriteError Expr}
    (keeps : KeepsValues assignment simplifyPart)
    {operands : List Expr}
    {result : Expr}
    {total : K}
    (success : collectProduct simplifyPart operands = .ok result)
    (defined : strictProduct (operands.map (eval assignment)) = some total) :
    result.eval assignment = some total := by
  obtain ⟨rest, restValue, rfl⟩ := exists_of_strictProduct_eq_some assignment defined
  cases multipliesTo_of_collectProduct_eq_ok success with
  | zero isZero => rw [eval_zero, isZero, Fraction.toRat_zero, map_zero, zero_mul]
  | assembled nonzero mapped =>
      have entries : strictProduct (((operands.filter (!·.isNumber)).map splitFactor).map
          (factorValue assignment)) = some rest := by
        rw [List.map_map, ← restValue]
        exact congrArg strictProduct
          (List.map_congr_left fun factor _ => factorValue_splitFactor assignment factor)
      have tallied : strictProduct ((factorTally operands).map (factorValue assignment)) =
          some rest :=
        Tally.strictFold_ofEntries _ _ (factorValue_add assignment) entries
      have factors := strictProduct_collected assignment keeps mapped tallied
      obtain ⟨others, othersValue, rfl⟩ := exists_of_strictProduct_eq_some assignment factors
      rw [eval_assembleProduct assignment othersValue, Fraction.toRat_mul, map_mul, mul_assoc]

end Simplify
end ExactAlgebra
