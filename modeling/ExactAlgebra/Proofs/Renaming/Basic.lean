import ExactAlgebra.Proofs.Simplify.Settled
import ExactAlgebra.Proofs.Tally
import ExactAlgebra.Rewrite.Weight
import Mathlib.Logic.Function.Basic

/-!
# Renaming variables

A renaming is a function of variables to variables. It is applied to an expression by
building the expression again, so that the operands of sums and products are arranged by
the new names. They stay the same operands, renamed, but in another order. So all that
depends on operands up to their order commutes with renaming: the terms of a sum, the
factors of a product, and what these are split into.

A one-to-one renaming can be undone on well-formed expressions, whose operands were
arranged before. So it tells well-formed expressions apart.
-/

namespace ExactAlgebra

/-- A test that gives the same answer on images keeps the images of what it keeps. -/
theorem filter_perm_map
    {image : α → β}
    {keep : β → Bool}
    {keepSource : α → Bool}
    {lefts : List β}
    {rights : List α}
    (perm : lefts.Perm (rights.map image))
    (same : ∀ right, keep (image right) = keepSource right) :
    (lefts.filter keep).Perm ((rights.filter keepSource).map image) := by
  have kept := perm.filter keep
  rw [List.filter_map] at kept
  simpa only [Function.comp_def, same] using kept

namespace Expr

mutual
/-- Build an expression again with other variables. -/
def rename (relabel : Symbol → Symbol) : Expr → Expr
  | number value => number value
  | symbol name => symbol (relabel name)
  | sum operands => sumOf (renameAll relabel operands)
  | product operands => productOf (renameAll relabel operands)
  | power base exponent => power (rename relabel base) exponent
/-- Build all expressions of a list again. -/
def renameAll (relabel : Symbol → Symbol) : List Expr → List Expr
  | [] => []
  | operand :: operands => rename relabel operand :: renameAll relabel operands
end

theorem renameAll_eq_map (relabel : Symbol → Symbol) (operands : List Expr) :
    renameAll relabel operands = operands.map (rename relabel) := by
  induction operands with
  | nil => rfl
  | cons operand operands hypothesis => rw [renameAll, hypothesis, List.map_cons]

section Rename

variable (relabel : Symbol → Symbol)

@[simp] theorem rename_number (value : Fraction) :
    (number value).rename relabel = number value := by
  rw [rename]

@[simp] theorem rename_symbol (name : Symbol) :
    (symbol name).rename relabel = symbol (relabel name) := by
  rw [rename]

@[simp] theorem rename_sum (operands : List Expr) :
    (sum operands).rename relabel = sumOf (operands.map (rename relabel)) := by
  rw [rename, renameAll_eq_map]

@[simp] theorem rename_product (operands : List Expr) :
    (product operands).rename relabel = productOf (operands.map (rename relabel)) := by
  rw [rename, renameAll_eq_map]

@[simp] theorem rename_power (base : Expr) (exponent : Fraction) :
    (power base exponent).rename relabel = power (base.rename relabel) exponent := by
  rw [rename]

/-! ## Built expressions -/

theorem rename_sumOf (operands : List Expr) :
    (sumOf operands).rename relabel = sumOf (operands.map (rename relabel)) := by
  rw [sumOf, rename_sum]
  exact sumOf_perm ((perm_arrange operands).map _)

theorem rename_productOf (operands : List Expr) :
    (productOf operands).rename relabel = productOf (operands.map (rename relabel)) := by
  rw [productOf, rename_product]
  exact productOf_perm ((perm_arrange operands).map _)

theorem rename_sumOfTerms (terms : List Expr) :
    (sumOfTerms terms).rename relabel = sumOfTerms (terms.map (rename relabel)) := by
  match terms with
  | [] => exact rename_number relabel 0
  | [term] => rfl
  | first :: second :: others => exact rename_sumOf relabel _

theorem rename_productOfFactors (factors : List Expr) :
    (productOfFactors factors).rename relabel =
      productOfFactors (factors.map (rename relabel)) := by
  match factors with
  | [] => exact rename_number relabel 1
  | [factor] => rfl
  | first :: second :: others => exact rename_productOf relabel _

/-! ## Constants and variables -/

@[simp] theorem value?_rename (expr : Expr) : (expr.rename relabel).value? = expr.value? := by
  cases expr <;> simp [value?, sumOf, productOf]

@[simp] theorem isNumber_rename (expr : Expr) :
    (expr.rename relabel).isNumber = expr.isNumber := by
  rw [isNumber, isNumber, value?_rename]

theorem eq_number_iff {expr : Expr} {value : Fraction} :
    expr = number value ↔ expr.value? = some value := by
  cases expr <;> simp [value?]

@[simp] theorem rename_eq_number_iff {expr : Expr} {value : Fraction} :
    expr.rename relabel = number value ↔ expr = number value := by
  rw [eq_number_iff, eq_number_iff, value?_rename]

@[simp] theorem rename_eq_zero_iff {expr : Expr} : expr.rename relabel = 0 ↔ expr = 0 :=
  rename_eq_number_iff relabel

@[simp] theorem rename_eq_one_iff {expr : Expr} : expr.rename relabel = 1 ↔ expr = 1 :=
  rename_eq_number_iff relabel

theorem anyContainsSymbols_eq_any (operands : List Expr) :
    anyContainsSymbols operands = operands.any containsSymbols := by
  induction operands with
  | nil => rfl
  | cons operand operands hypothesis => rw [anyContainsSymbols, hypothesis, List.any_cons]

@[simp] theorem containsSymbols_rename (expr : Expr) :
    (expr.rename relabel).containsSymbols = expr.containsSymbols := by
  have operandwise {operands : List Expr}
      (each : ∀ operand ∈ operands,
        (operand.rename relabel).containsSymbols = operand.containsSymbols) :
      anyContainsSymbols (arrange (operands.map (rename relabel))) =
        anyContainsSymbols operands := by
    rw [anyContainsSymbols_eq_any, anyContainsSymbols_eq_any, (perm_arrange _).any_eq,
      List.any_map, Bool.eq_iff_iff, List.any_eq_true, List.any_eq_true]
    exact exists_congr fun operand => and_congr_right fun member => by
      rw [Function.comp_apply, each operand member]
  induction expr with
  | number value => rw [rename_number]
  | symbol name => rfl
  | sum operands hypothesis =>
      rw [rename_sum, sumOf, containsSymbols, containsSymbols, operandwise hypothesis]
  | product operands hypothesis =>
      rw [rename_product, productOf, containsSymbols, containsSymbols, operandwise hypothesis]
  | power base exponent hypothesis =>
      rw [rename_power, containsSymbols, containsSymbols, hypothesis]

/-! ## Terms and factors -/

/-- The terms of a renamed sum are the renamed terms. -/
theorem summands_rename_perm (expr : Expr) :
    (expr.rename relabel).summands.Perm (expr.summands.map (rename relabel)) := by
  cases expr with
  | sum operands => rw [rename_sum]; exact perm_arrange _
  | product operands => simp [summands, productOf]
  | number value => rw [rename_number]; exact .refl _
  | symbol name => exact .refl _
  | power base exponent => exact .refl _

/-- The factors of a renamed product are the renamed factors. -/
theorem factors_rename_perm (expr : Expr) :
    (expr.rename relabel).factors.Perm (expr.factors.map (rename relabel)) := by
  cases expr with
  | product operands => rw [rename_product]; exact perm_arrange _
  | sum operands => simp [factors, sumOf]
  | number value => rw [rename_number]; exact .refl _
  | symbol name => exact .refl _
  | power base exponent => exact .refl _

end Rename

/-! ## Renaming back -/

theorem WellFormed.rename
    (relabel : Symbol → Symbol)
    {expr : Expr}
    (wellFormed : WellFormed expr) :
    WellFormed (expr.rename relabel) := by
  induction wellFormed with
  | number value => rw [rename_number]; exact .number value
  | symbol name => exact .symbol _
  | sum operands several _ _ hypothesis =>
      rw [rename_sum]
      exact .sumOf (by simpa using several) (List.forall_mem_map.mpr hypothesis)
  | product operands several _ _ hypothesis =>
      rw [rename_product]
      exact .productOf (by simpa using several) (List.forall_mem_map.mpr hypothesis)
  | power base exponent _ hypothesis => exact .power _ _ hypothesis

theorem rename_rename (first second : Symbol → Symbol) (expr : Expr) :
    (expr.rename first).rename second = expr.rename (second ∘ first) := by
  induction expr with
  | number value => simp
  | symbol name => simp
  | sum operands hypothesis =>
      rw [rename_sum, rename_sumOf, rename_sum, List.map_map]
      exact congrArg sumOf (List.map_congr_left hypothesis)
  | product operands hypothesis =>
      rw [rename_product, rename_productOf, rename_product, List.map_map]
      exact congrArg productOf (List.map_congr_left hypothesis)
  | power base exponent hypothesis => simp [hypothesis]

/-- Arranged operands stay in place when no name changes. -/
theorem WellFormed.rename_id {expr : Expr} (wellFormed : WellFormed expr) :
    expr.rename id = expr := by
  induction wellFormed with
  | number value => exact rename_number id value
  | symbol name => exact rename_symbol id name
  | sum operands _ ordered _ hypothesis =>
      rw [rename_sum, List.map_congr_left hypothesis, List.map_id']
      exact congrArg Expr.sum (arrange_eq_of_perm (.refl _) ordered)
  | product operands _ ordered _ hypothesis =>
      rw [rename_product, List.map_congr_left hypothesis, List.map_id']
      exact congrArg Expr.product (arrange_eq_of_perm (.refl _) ordered)
  | power base exponent _ hypothesis => rw [rename_power, hypothesis]

/-- A one-to-one renaming tells well-formed expressions apart. -/
theorem WellFormed.eq_of_rename_eq
    {relabel : Symbol → Symbol}
    (injective : Function.Injective relabel)
    {left right : Expr}
    (leftWellFormed : WellFormed left)
    (rightWellFormed : WellFormed right)
    (same : left.rename relabel = right.rename relabel) :
    left = right := by
  have : Nonempty Symbol := ⟨.x⟩
  obtain ⟨back, undoes⟩ := injective.hasLeftInverse
  have undone {expr : Expr} (wellFormed : WellFormed expr) :
      (expr.rename relabel).rename back = expr := by
    rw [rename_rename, undoes.comp_eq_id, wellFormed.rename_id]
  rw [← undone leftWellFormed, same, undone rightWellFormed]

end Expr
end ExactAlgebra
