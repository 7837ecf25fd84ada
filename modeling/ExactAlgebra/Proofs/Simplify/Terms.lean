import ExactAlgebra.Proofs.Evaluation.Basic
import ExactAlgebra.Proofs.Tally
import ExactAlgebra.Rewrite.Cases

/-!
# Collecting terms keeps values

Terms are added up under a tally of their coefficients. A coefficient stands in
front of its term as a factor, and the coefficients of a term add up, so the
collected terms have the same total as the terms that were given.
-/

namespace ExactAlgebra
namespace Simplify

open ExactAlgebra.Expr

/-- Adding up fractions adds up their values. -/
theorem toRat_foldl_add (start : Fraction) (values : List Fraction) :
    (values.foldl (· + ·) start).toRat = start.toRat + (values.map Fraction.toRat).sum := by
  induction values generalizing start with
  | nil => simp
  | cons value values hypothesis =>
      rw [List.foldl_cons, hypothesis, Fraction.toRat_add, List.map_cons, List.sum_cons, add_assoc]

variable {K : Type*} [CommRing K] [Algebra ℚ K] (assignment : Symbol → K)

/-- The constants among terms have the constant term as their total. -/
theorem strictSum_constants (operands : List Expr) :
    strictSum ((operands.filter (·.isNumber)).map (eval assignment)) =
      some (algebraMap ℚ K (constantTerm operands).toRat) := by
  rw [constantTerm, toRat_foldl_add, Fraction.toRat_zero, zero_add]
  induction operands with
  | nil => simp [strictSum]
  | cons operand operands hypothesis =>
      cases operand with
      | number value =>
          rw [List.filter_cons_of_pos rfl, List.map_cons, strictSum_cons, hypothesis,
            eval_number, Option.map₂_some_some, ← map_add]
          rfl
      | _ => exact hypothesis

/-- The value of a term with a coefficient. -/
noncomputable def termValue (entry : Expr × Fraction) : Option K :=
  (entry.1.eval assignment).map (algebraMap ℚ K entry.2.toRat * ·)

theorem termValue_eq_some_iff {entry : Expr × Fraction} {result : K} :
    termValue assignment entry = some result ↔
      ∃ value, entry.1.eval assignment = some value ∧
        algebraMap ℚ K entry.2.toRat * value = result :=
  Option.map_eq_some_iff

/-- Splitting the coefficient off a term keeps its value. -/
theorem termValue_splitTerm (term : Expr) :
    termValue assignment (splitTerm term) = term.eval assignment := by
  unfold splitTerm
  split
  · rw [termValue, eval_productOfFactors, eval_product, List.map_cons, strictProduct_cons,
      eval_number]
    rfl
  · simp [termValue]

/-- The coefficients of a term add up. -/
theorem termValue_add
    (key : Expr)
    (first second : Fraction)
    (left right : K)
    (leftValue : termValue assignment (key, first) = some left)
    (rightValue : termValue assignment (key, second) = some right) :
    termValue assignment (key, first + second) = some (left + right) := by
  obtain ⟨value, defined, rfl⟩ := (termValue_eq_some_iff assignment).mp leftValue
  obtain ⟨same, again, rfl⟩ := (termValue_eq_some_iff assignment).mp rightValue
  cases defined.symm.trans again
  refine (termValue_eq_some_iff assignment).mpr ⟨value, defined, ?_⟩
  rw [Fraction.toRat_add, map_add, add_mul]

/-- Giving a term a coefficient multiplies its value. -/
theorem eval_scale (coefficient : Fraction) (term : Expr) :
    (scale coefficient term).eval assignment = termValue assignment (term, coefficient) := by
  have asProduct : strictProduct [(number coefficient).eval assignment, term.eval assignment] =
      termValue assignment (term, coefficient) := by
    rw [strictProduct_cons, strictProduct_singleton, eval_number]
    rfl
  rw [← asProduct]
  unfold scale
  split
  · rw [eval_productOf, List.map_append, strictProduct_append, eval_product, List.map_singleton,
      strictProduct_singleton, strictProduct_cons, strictProduct_singleton]
    exact Option.map₂_comm mul_comm
  · exact eval_productOf assignment _

/-- The term that a tallied coefficient leaves has the value of the entry. -/
theorem eval_of_collectedTerm?_eq_some
    {entry : Expr × Fraction}
    {term : Expr}
    (collected : collectedTerm? entry = some term) :
    term.eval assignment = termValue assignment entry := by
  rcases cases_of_collectedTerm?_eq_some collected with ⟨isOne, rfl⟩ | ⟨_, _, rfl⟩
  · rw [termValue, isOne, Fraction.toRat_one, map_one]
    simp
  · exact eval_scale assignment entry.2 entry.1

/-- Dropping the terms whose coefficients cancel keeps a defined total. -/
theorem strictSum_collected
    {tally : Tally Expr}
    {total : K}
    (defined : strictSum (tally.map (termValue assignment)) = some total) :
    strictSum ((tally.filterMap collectedTerm?).map (eval assignment)) = some total := by
  induction tally generalizing total with
  | nil => exact defined
  | cons entry rest hypothesis =>
      obtain ⟨value, others, head, tail, rfl⟩ := strictFold_cons_eq_some _ _ defined
      cases collected : collectedTerm? entry with
      | none =>
          obtain ⟨base, _, rfl⟩ := (termValue_eq_some_iff assignment).mp head
          have isZero : entry.2 = 0 := by
            by_contra notZero
            rw [collectedTerm?, if_neg notZero] at collected
            split at collected <;> cases collected
          rw [List.filterMap_cons_none collected, isZero, Fraction.toRat_zero, map_zero,
            zero_mul, zero_add]
          exact hypothesis tail
      | some term =>
          rw [List.filterMap_cons_some collected, List.map_cons,
            eval_of_collectedTerm?_eq_some assignment collected, head, strictSum_cons,
            hypothesis tail, Option.map₂_some_some]

/-- Collecting terms keeps a defined total. -/
theorem eval_collectSum
    {operands : List Expr}
    {total : K}
    (defined : strictSum (operands.map (eval assignment)) = some total) :
    (collectSum operands).eval assignment = some total := by
  have split : Option.map₂ (· + ·)
        (strictSum ((operands.filter (·.isNumber)).map (eval assignment)))
        (strictSum ((operands.filter (!·.isNumber)).map (eval assignment))) =
      strictSum (operands.map (eval assignment)) :=
    strictFold_map_filter _ _ (eval assignment) (·.isNumber) operands
  rw [strictSum_constants, defined, Option.map₂_eq_some_iff] at split
  obtain ⟨constant, rest, isConstant, restValue, rfl⟩ := split
  cases isConstant
  have entries : strictSum (((operands.filter (!·.isNumber)).map splitTerm).map
      (termValue assignment)) = some rest := by
    rw [List.map_map, ← restValue]
    exact congrArg strictSum (List.map_congr_left fun term _ => termValue_splitTerm assignment term)
  have tallied : strictSum ((termTally operands).map (termValue assignment)) = some rest :=
    Tally.strictFold_ofEntries _ _ (termValue_add assignment) entries
  have terms := strictSum_collected assignment tallied
  rw [collectSum, eval_sumOfTerms]
  split
  · rename_i isZero
    rw [terms, isZero, Fraction.toRat_zero, map_zero, zero_add]
  · rw [List.map_cons, strictSum_cons, terms, eval_number, Option.map₂_some_some]

end Simplify
end ExactAlgebra
