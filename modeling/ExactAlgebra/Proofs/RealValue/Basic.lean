import ExactAlgebra.Proofs.CanonicalOrder
import ExactAlgebra.Proofs.FailingMap
import ExactAlgebra.Proofs.Fraction.RealPower
import ExactAlgebra.Rewrite.Error

/-!
# Real values of positive expressions

With positive numbers for its variables and positive constants, an expression has a
positive real value, whatever its exponents are: every base is positive, and so are
all its real powers. Positivity passes to the parts of an expression and to what is
built from positive parts, as long as no sum is empty.
-/

namespace ExactAlgebra
namespace Expr

mutual
/-- The constants of an expression. Exponents are not among them. -/
def constants : Expr → List Fraction
  | number value => [value]
  | symbol _ => []
  | sum operands => constantsAll operands
  | product operands => constantsAll operands
  | power base _ => constants base
/-- The constants of a list of expressions. -/
def constantsAll : List Expr → List Fraction
  | [] => []
  | operand :: operands => constants operand ++ constantsAll operands
end

theorem mem_constantsAll_iff {operands : List Expr} {value : Fraction} :
    value ∈ constantsAll operands ↔ ∃ operand ∈ operands, value ∈ operand.constants := by
  induction operands with
  | nil => simp [constantsAll]
  | cons head tail hypothesis => simp [constantsAll, hypothesis]

mutual
/-- The real value of an expression under an assignment of real numbers to its
variables. -/
noncomputable def realValue (assignment : Symbol → ℝ) : Expr → ℝ
  | number value => value.toRat
  | symbol name => assignment name
  | sum operands => (realValues assignment operands).sum
  | product operands => (realValues assignment operands).prod
  | power base exponent => realValue assignment base ^ (exponent.toRat : ℝ)
/-- The real values of a list of expressions. -/
noncomputable def realValues (assignment : Symbol → ℝ) : List Expr → List ℝ
  | [] => []
  | operand :: operands => realValue assignment operand :: realValues assignment operands
end

section RealValue

variable (assignment : Symbol → ℝ)

theorem realValues_eq_map (operands : List Expr) :
    realValues assignment operands = operands.map (realValue assignment) := by
  induction operands with
  | nil => rfl
  | cons operand operands hypothesis => rw [realValues, hypothesis, List.map_cons]

@[simp] theorem realValue_number (value : Fraction) :
    (number value).realValue assignment = value.toRat := by
  rw [realValue]

@[simp] theorem realValue_symbol (name : Symbol) :
    (symbol name).realValue assignment = assignment name := by
  rw [realValue]

@[simp] theorem realValue_sum (operands : List Expr) :
    (sum operands).realValue assignment = (operands.map (realValue assignment)).sum := by
  rw [realValue, realValues_eq_map]

@[simp] theorem realValue_product (operands : List Expr) :
    (product operands).realValue assignment = (operands.map (realValue assignment)).prod := by
  rw [realValue, realValues_eq_map]

@[simp] theorem realValue_power (base : Expr) (exponent : Fraction) :
    (power base exponent).realValue assignment =
      base.realValue assignment ^ (exponent.toRat : ℝ) := by
  rw [realValue]

@[simp] theorem realValue_zero : (0 : Expr).realValue assignment = 0 := by
  change (number 0).realValue assignment = _
  rw [realValue_number, Fraction.toRat_zero, Rat.cast_zero]

@[simp] theorem realValue_one : (1 : Expr).realValue assignment = 1 := by
  change (number 1).realValue assignment = _
  rw [realValue_number, Fraction.toRat_one, Rat.cast_one]

theorem realValue_sumOf (operands : List Expr) :
    (sumOf operands).realValue assignment = (operands.map (realValue assignment)).sum := by
  rw [sumOf, realValue_sum]
  exact ((perm_arrange operands).map _).sum_eq

theorem realValue_productOf (operands : List Expr) :
    (productOf operands).realValue assignment = (operands.map (realValue assignment)).prod := by
  rw [productOf, realValue_product]
  exact ((perm_arrange operands).map _).prod_eq

@[simp] theorem realValue_sumOfTerms (terms : List Expr) :
    (sumOfTerms terms).realValue assignment = (terms.map (realValue assignment)).sum := by
  match terms with
  | [] => exact realValue_zero assignment
  | [_] => exact (List.sum_singleton).symm
  | _ :: _ :: _ => exact realValue_sumOf assignment _

@[simp] theorem realValue_productOfFactors (factors : List Expr) :
    (productOfFactors factors).realValue assignment =
      (factors.map (realValue assignment)).prod := by
  match factors with
  | [] => exact realValue_one assignment
  | [_] => exact (List.prod_singleton).symm
  | _ :: _ :: _ => exact realValue_productOf assignment _

theorem sum_summands (expr : Expr) :
    (expr.summands.map (realValue assignment)).sum = expr.realValue assignment := by
  cases expr with
  | sum operands => exact (realValue_sum assignment operands).symm
  | _ => exact List.sum_singleton

theorem prod_factors (expr : Expr) :
    (expr.factors.map (realValue assignment)).prod = expr.realValue assignment := by
  cases expr with
  | product operands => exact (realValue_product assignment operands).symm
  | _ => exact List.prod_singleton

/-- Splicing sums into the list of their terms keeps the total. -/
theorem sum_flatMap_summands (operands : List Expr) :
    ((operands.flatMap summands).map (realValue assignment)).sum =
      (operands.map (realValue assignment)).sum := by
  induction operands with
  | nil => rfl
  | cons operand operands hypothesis =>
      rw [List.flatMap_cons, List.map_append, List.sum_append, sum_summands, hypothesis,
        List.map_cons, List.sum_cons]

/-- Splicing products into the list of their factors keeps the product. -/
theorem prod_flatMap_factors (operands : List Expr) :
    ((operands.flatMap factors).map (realValue assignment)).prod =
      (operands.map (realValue assignment)).prod := by
  induction operands with
  | nil => rfl
  | cons operand operands hypothesis =>
      rw [List.flatMap_cons, List.map_append, List.prod_append, prod_factors, hypothesis,
        List.map_cons, List.prod_cons]

end RealValue

/-! ## Positive expressions -/

/-- All constants are positive, and no sum is empty. -/
inductive Positive : Expr → Prop
  | number (value : Fraction) (positive : 0 < value.toRat) : Positive (number value)
  | symbol (name : Symbol) : Positive (symbol name)
  | sum
      (operands : List Expr)
      (nonempty : operands ≠ [])
      (positive : ∀ operand ∈ operands, Positive operand) :
      Positive (sum operands)
  | product
      (operands : List Expr)
      (positive : ∀ operand ∈ operands, Positive operand) :
      Positive (product operands)
  | power (base : Expr) (exponent : Fraction) (positive : Positive base) :
      Positive (power base exponent)

/-- A well-formed expression with positive constants is positive. -/
theorem WellFormed.positive
    {expr : Expr}
    (wellFormed : WellFormed expr)
    (positive : ∀ value ∈ expr.constants, 0 < value.toRat) :
    Positive expr := by
  induction wellFormed with
  | number value => exact .number value (positive value List.mem_cons_self)
  | symbol name => exact .symbol name
  | sum operands several _ _ hypothesis =>
      refine .sum operands (List.ne_nil_of_length_pos (by omega)) fun operand member => ?_
      exact hypothesis operand member fun value inOperand =>
        positive value (mem_constantsAll_iff.mpr ⟨operand, member, inOperand⟩)
  | product operands _ _ _ hypothesis =>
      refine .product operands fun operand member => ?_
      exact hypothesis operand member fun value inOperand =>
        positive value (mem_constantsAll_iff.mpr ⟨operand, member, inOperand⟩)
  | power base exponent _ hypothesis => exact .power base exponent (hypothesis positive)

/-- A positive expression has positive constants. -/
theorem Positive.constants
    {expr : Expr}
    (positive : Positive expr) :
    ∀ value ∈ expr.constants, 0 < value.toRat := by
  induction positive with
  | number value positive => exact List.forall_mem_singleton.mpr positive
  | symbol name => exact List.forall_mem_nil _
  | sum operands _ _ hypothesis | product operands _ hypothesis =>
      intro value member
      obtain ⟨operand, inOperands, inOperand⟩ := mem_constantsAll_iff.mp member
      exact hypothesis operand inOperands value inOperand
  | power base exponent _ hypothesis => exact hypothesis

/-- The direct parts of a positive expression are positive. -/
theorem Positive.children
    {expr : Expr}
    (positive : Positive expr) :
    ∀ child ∈ expr.children, Positive child := by
  cases positive with
  | number value positive => exact List.forall_mem_nil _
  | symbol name => exact List.forall_mem_nil _
  | sum operands _ positive | product operands positive => exact positive
  | power base exponent positive => exact List.forall_mem_singleton.mpr positive

section Positive

variable {assignment : Symbol → ℝ} (assigned : ∀ name, 0 < assignment name)

include assigned in
/-- Positive expressions have positive values. -/
theorem Positive.realValue_pos {expr : Expr} (positive : Positive expr) :
    0 < expr.realValue assignment := by
  induction positive with
  | number value positive =>
      rw [realValue_number]
      exact Rat.cast_pos.mpr positive
  | symbol name =>
      rw [realValue_symbol]
      exact assigned name
  | sum operands nonempty _ hypothesis =>
      rw [realValue_sum]
      exact List.sum_pos _ (List.forall_mem_map.mpr hypothesis) (mt List.map_eq_nil_iff.mp nonempty)
  | product operands _ hypothesis =>
      rw [realValue_product]
      exact List.prod_pos (List.forall_mem_map.mpr hypothesis)
  | power base exponent _ hypothesis =>
      rw [realValue_power]
      exact Real.rpow_pos_of_pos hypothesis _

variable {operands : List Expr}

theorem Positive.one : Positive 1 :=
  .number 1 one_pos

theorem Positive.productOf (positive : ∀ operand ∈ operands, Positive operand) :
    Positive (productOf operands) :=
  .product _ fun operand member =>
    positive operand ((perm_arrange operands).mem_iff.mp member)

theorem Positive.productOfFactors (positive : ∀ operand ∈ operands, Positive operand) :
    Positive (productOfFactors operands) := by
  match operands with
  | [] => exact .one
  | [factor] => exact positive factor List.mem_cons_self
  | _ :: _ :: _ => exact .productOf positive

theorem Positive.sumOf
    (nonempty : operands ≠ [])
    (positive : ∀ operand ∈ operands, Positive operand) :
    Positive (sumOf operands) := by
  have arranged := perm_arrange operands
  refine .sum _ (fun empty => nonempty ?_) fun operand member =>
    positive operand (arranged.mem_iff.mp member)
  exact (empty ▸ arranged).nil_eq.symm

/-- A sum of positive terms is positive unless there are none, and then its value
would be zero. -/
theorem Positive.sumOfTerms
    (nonzero : (sumOfTerms operands).realValue assignment ≠ 0)
    (positive : ∀ operand ∈ operands, Positive operand) :
    Positive (sumOfTerms operands) := by
  match operands with
  | [] => exact absurd (realValue_zero assignment) nonzero
  | [term] => exact positive term List.mem_cons_self
  | _ :: _ :: _ => exact .sumOf nofun positive

variable {expr : Expr}

theorem Positive.summands (positive : Positive expr) :
    expr.summands ≠ [] ∧ ∀ term ∈ expr.summands, Positive term := by
  cases expr with
  | sum operands =>
      cases positive with
      | sum _ nonempty positive => exact ⟨nonempty, positive⟩
  | _ => exact ⟨nofun, List.forall_mem_singleton.mpr positive⟩

theorem Positive.factors (positive : Positive expr) :
    ∀ factor ∈ expr.factors, Positive factor := by
  cases expr with
  | product operands =>
      cases positive with
      | product _ positive => exact positive
  | _ => exact List.forall_mem_singleton.mpr positive

end Positive

/-- A way to rewrite expressions that keeps positive expressions positive, with the
same real value under the assignment. -/
def KeepsPositiveValues
    (assignment : Symbol → ℝ)
    (rewrite : Expr → Except RewriteError Expr) : Prop :=
  ∀ expr result, Positive expr → rewrite expr = .ok result →
    Positive result ∧ result.realValue assignment = expr.realValue assignment

section Rewrite

variable {assignment : Symbol → ℝ} {rewrite : Expr → Except RewriteError Expr}
variable {operands results : List Expr}

/-- Rewriting a list of positive expressions keeps the list of their values. -/
theorem positiveValues_of_mapM_eq_ok
    (keeps : ∀ operand ∈ operands, ∀ result, rewrite operand = .ok result →
      Positive result ∧ result.realValue assignment = operand.realValue assignment)
    (success : operands.mapM rewrite = .ok results) :
    (∀ result ∈ results, Positive result) ∧
      results.map (realValue assignment) = operands.map (realValue assignment) := by
  have each := forall₂_of_mapM_eq_ok success keeps
  clear keeps success
  induction each with
  | nil => exact ⟨nofun, rfl⟩
  | cons here _ hypothesis =>
      rw [List.map_cons, List.map_cons, here.2, hypothesis.2]
      exact ⟨List.forall_mem_cons.mpr ⟨here.1, hypothesis.1⟩, rfl⟩

/-- Rewriting positive terms and splicing the sums among the results leaves positive
terms with the same total. -/
theorem positiveTerms_of_mapM_eq_ok
    (nonempty : operands ≠ [])
    (keeps : ∀ operand ∈ operands, ∀ result, rewrite operand = .ok result →
      Positive result ∧ result.realValue assignment = operand.realValue assignment)
    (success : operands.mapM rewrite = .ok results) :
    results.flatMap summands ≠ [] ∧
      (∀ term ∈ results.flatMap summands, Positive term) ∧
        ((results.flatMap summands).map (realValue assignment)).sum =
          (operands.map (realValue assignment)).sum := by
  obtain ⟨positive, values⟩ := positiveValues_of_mapM_eq_ok keeps success
  refine ⟨fun empty => ?_, fun term member => ?_, ?_⟩
  · have resultsNonempty : results ≠ [] := by
      rintro rfl
      exact nonempty (List.map_eq_nil_iff.mp values.symm)
    obtain ⟨result, member⟩ := List.exists_mem_of_ne_nil results resultsNonempty
    exact (positive result member).summands.1 (List.flatMap_eq_nil_iff.mp empty result member)
  · obtain ⟨result, inResults, inTerms⟩ := List.mem_flatMap.mp member
    exact (positive result inResults).summands.2 term inTerms
  · rw [sum_flatMap_summands, values]

end Rewrite

end Expr
end ExactAlgebra
