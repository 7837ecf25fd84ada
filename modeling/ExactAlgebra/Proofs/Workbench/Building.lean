import ExactAlgebra.Proofs.Renaming.Derivative
import ExactAlgebra.Workbench.Node.Derivative
import ExactAlgebra.Workbench.Node.Expand
import ExactAlgebra.Workbench.Node.Simplify

/-!
# Building nodes and building expressions

What a node shows of its fractions has no part in how nodes are built. Operands are
arranged by their expressions, spliced by their kinds, and told apart by their values, so
the expression of a node that is built from others is built in the same way from theirs.
-/

namespace ExactAlgebra
namespace Workbench
namespace Node

@[simp] theorem expr_number (value : Numeral) : (number value).expr = .number value.value := rfl

@[simp] theorem expr_symbol (name : Symbol) : (symbol name).expr = .symbol name := rfl

@[simp] theorem expr_sum (operands : List Node) :
    (sum operands).expr = .sum (operands.map expr) := by
  rw [expr, exprs_eq_map]

@[simp] theorem expr_product (operands : List Node) :
    (product operands).expr = .product (operands.map expr) := by
  rw [expr, exprs_eq_map]

@[simp] theorem expr_power (base : Node) (exponent : Numeral) :
    (power base exponent).expr = .power base.expr exponent.value := rfl

@[simp] theorem expr_constant (value : Fraction) : (constant value).expr = .number value := rfl

/-! ## Constants -/

/-- A choice that depends on the images of members alone may be made among the images. -/
theorem map_filter_of_eq
    {image : α → β}
    {keeps : α → Bool}
    {keepsImage : β → Bool}
    (same : ∀ member, keeps member = keepsImage (image member))
    (members : List α) :
    (members.filter keeps).map image = (members.map image).filter keepsImage := by
  rw [List.filter_map]
  exact congrArg _ (List.filter_congr fun member _ => same member)

/-- A node is a literal when its expression is. -/
theorem isLiteral_iff (value : Fraction) (node : Node) :
    node.isLiteral value = true ↔ node.expr = .number value := by
  cases node <;> simp [isLiteral]

theorem isLiteral_zero_iff (node : Node) : node.isLiteral 0 = true ↔ node.expr = 0 :=
  isLiteral_iff 0 node

theorem isLiteral_one_iff (node : Node) : node.isLiteral 1 = true ↔ node.expr = 1 :=
  isLiteral_iff 1 node

theorem isLiteral_eq (value : Fraction) (node : Node) :
    node.isLiteral value = decide (node.expr = .number value) := by
  rw [Bool.eq_iff_iff, isLiteral_iff, decide_eq_true_iff]

theorem not_isLiteral_eq (value : Fraction) (node : Node) :
    (!node.isLiteral value) = decide (node.expr ≠ .number value) := by
  rw [isLiteral_eq, decide_not]

@[simp] theorem isNumber_expr (node : Node) : node.expr.isNumber = node.isNumber := by
  cases node <;> rfl

/-- The expressions of the nodes that are not constants are those that are not. -/
theorem map_filter_not_isNumber (nodes : List Node) :
    (nodes.filter (!·.isNumber)).map expr = (nodes.map expr).filter (!·.isNumber) :=
  map_filter_of_eq (by simp) nodes

/-! ## Operands in canonical order -/

/-- Every entry has the expression of its node. -/
theorem fst_eq_of_mem_keyed
    {nodes : List Node}
    {entry : Expr × Node}
    (member : entry ∈ keyed nodes) :
    entry.1 = entry.2.expr := by
  obtain ⟨node, _, rfl⟩ := List.mem_map.mp member
  rfl

@[simp] theorem expr_arrange (nodes : List Node) :
    (arrange nodes).map expr = Expr.arrange (nodes.map expr) := by
  have keys : (keyed nodes).map Prod.fst = nodes.map expr := by
    rw [keyed, List.map_map]
    rfl
  rw [arrange, List.map_map, Expr.arrange, ← keys, ← Sorting.map_sort]
  exact List.map_congr_left fun entry member =>
    (fst_eq_of_mem_keyed (Sorting.mem_sort.mp member)).symm

@[simp] theorem expr_sumOf (operands : List Node) :
    (sumOf operands).expr = .sumOf (operands.map expr) := by
  simp [sumOf, Expr.sumOf]

@[simp] theorem expr_productOf (operands : List Node) :
    (productOf operands).expr = .productOf (operands.map expr) := by
  simp [productOf, Expr.productOf]

@[simp] theorem expr_sumOfTerms (terms : List Node) :
    (sumOfTerms terms).expr = .sumOfTerms (terms.map expr) := by
  match terms with
  | [] | [_] => rfl
  | first :: second :: others => exact expr_sumOf (first :: second :: others)

@[simp] theorem expr_productOfFactors (factors : List Node) :
    (productOfFactors factors).expr = .productOfFactors (factors.map expr) := by
  match factors with
  | [] | [_] => rfl
  | first :: second :: others => exact expr_productOf (first :: second :: others)

/-! ## Terms and factors -/

@[simp] theorem expr_summands (node : Node) : node.summands.map expr = node.expr.summands := by
  cases node <;> simp [summands, Expr.summands]

@[simp] theorem expr_factors (node : Node) : node.factors.map expr = node.expr.factors := by
  cases node <;> simp [factors, Expr.factors]

/-- The terms of nodes have the terms of their expressions as expressions. -/
theorem expr_flatMap_summands (nodes : List Node) :
    (nodes.flatMap summands).map expr = (nodes.map expr).flatMap Expr.summands := by
  simp [List.map_flatMap, List.flatMap_map]

theorem expr_flatMap_factors (nodes : List Node) :
    (nodes.flatMap factors).map expr = (nodes.map expr).flatMap Expr.factors := by
  simp [List.map_flatMap, List.flatMap_map]

/-! ## Collected terms and factors -/

/-- A node that stands for a key has the key as its expression, whether it was given or
made from the key. -/
@[simp] theorem expr_representative (nodes : List Node) (key : Expr) :
    (representative (keyed nodes) key).expr = key := by
  rw [representative]
  cases found : (keyed nodes).find? fun entry => entry.1 = key with
  | none => exact expr_ofExpr key
  | some entry =>
      have isKey : entry.1 = key := by simpa using List.find?_some found
      exact (fst_eq_of_mem_keyed (List.mem_of_find?_eq_some found)).symm.trans isKey

@[simp] theorem expr_scale (coefficient : Fraction) (term : Node) :
    (scale coefficient term).expr = Simplify.scale coefficient term.expr := by
  cases term <;> simp [scale, Simplify.scale]

@[simp] theorem expr_collectedTerm? (term : Node) (coefficient : Fraction) :
    (collectedTerm? term coefficient).map expr =
      Simplify.collectedTerm? (term.expr, coefficient) := by
  unfold collectedTerm? Simplify.collectedTerm?
  split_ifs <;> simp

theorem expr_collectSum (operands : List Node) :
    (collectSum operands).expr = Simplify.collectSum (operands.map expr) := by
  have terms (bodies : List Node) :
      ((Simplify.termTally (operands.map expr)).filterMap fun entry =>
        collectedTerm? (representative (keyed bodies) entry.1) entry.2).map expr =
          (Simplify.termTally (operands.map expr)).filterMap Simplify.collectedTerm? := by
    simp [List.map_filterMap]
  unfold collectSum Simplify.collectSum
  dsimp only
  rw [exprs_eq_map, expr_sumOfTerms]
  by_cases isZero : Simplify.constantTerm (operands.map expr) = 0
  · rw [if_pos isZero, if_pos isZero]
    exact congrArg Expr.sumOfTerms (terms _)
  · rw [if_neg isZero, if_neg isZero, List.map_cons]
    exact congrArg (Expr.sumOfTerms <| _ :: ·) (terms _)

theorem expr_assembleProduct (coefficient : Fraction) (operands : List Node) :
    (assembleProduct coefficient operands).expr =
      Simplify.assembleProduct coefficient (operands.map expr) := by
  unfold assembleProduct Simplify.assembleProduct
  split_ifs
  · rfl
  · simp
  · simp

/-! ## Products multiplied out -/

@[simp] theorem expr_distribute (left right : Node) :
    (distribute left right).expr = Expand.distribute left.expr right.expr := by
  simp [distribute, Expand.distribute, ← expr_summands, List.map_flatMap, List.flatMap_map,
    Function.comp_def]

theorem expr_distributeAll (operands : List Node) :
    (distributeAll operands).expr = Expand.distributeAll (operands.map expr) := by
  cases operands with
  | nil => rfl
  | cons first others =>
      rw [distributeAll, List.map_cons, Expand.distributeAll]
      induction others generalizing first with
      | nil => rfl
      | cons second others hypothesis =>
          simp [hypothesis]

/-- Choices among images are the images of choices. -/
theorem selections_map (image : α → β) (choices : List α) (count : Nat) :
    Expand.selections (choices.map image) count =
      (Expand.selections choices count).map (List.map image) := by
  induction count with
  | zero => rfl
  | succ count hypothesis =>
      simp [Expand.selections, hypothesis, List.flatMap_map, List.map_flatMap, Function.comp_def]

@[simp] theorem expr_repeated (count : Nat) (base : Node) :
    (repeated count base).expr = Expand.repeated count base.expr := by
  cases base <;> simp [repeated, Expand.repeated, selections_map, Function.comp_def]

theorem expr_unroll (base : Node) (exponent : Fraction) :
    (unroll base exponent).expr = Expand.unroll base.expr exponent := by
  unfold unroll Expand.unroll
  dsimp only
  split_ifs <;> simp

/-! ## Derivatives -/

/-- The product rule reads which derivatives are zero off their expressions. -/
theorem expr_productRule (pairs : List (Node × Node)) :
    (productRule pairs).expr = Derivative.productRule (pairs.map (Prod.map expr expr)) := by
  have constants : ((pairs.filter fun pair => pair.2.isLiteral 0).map Prod.fst).map expr =
      ((pairs.map (Prod.map expr expr)).filter fun pair => pair.2 = 0).map Prod.fst := by
    rw [← map_filter_of_eq fun pair => isLiteral_eq 0 pair.2, List.map_map, List.map_map]
    rfl
  have varying : (pairs.filter fun pair => !pair.2.isLiteral 0).map (Prod.map expr expr) =
      (pairs.map (Prod.map expr expr)).filter fun pair => pair.2 ≠ 0 :=
    map_filter_of_eq (fun pair => not_isLiteral_eq 0 pair.2) pairs
  unfold productRule Derivative.productRule
  dsimp only
  rw [← constants, ← varying]
  generalize (pairs.filter fun pair => pair.2.isLiteral 0).map Prod.fst = kept
  generalize (pairs.filter fun pair => !pair.2.isLiteral 0) = remaining
  match remaining with
  | [] => rfl
  | [(_, derivative)] => exact (expr_productOf _).trans (congrArg Expr.productOf List.map_append)
  | first :: second :: others =>
      change (sumOf ((Derivative.picks (first :: second :: others)).map _)).expr =
        .sumOf ((Derivative.picks ((first :: second :: others).map (Prod.map expr expr))).map _)
      rw [expr_sumOf, Derivative.picks_map]
      simp [Function.comp_def]

theorem expr_powerRule (base : Node) (exponent : Numeral) (inner : Node) :
    (powerRule base exponent inner).expr =
      Derivative.powerRule base.expr exponent.value inner.expr := by
  simp only [powerRule, Derivative.powerRule, isLiteral_zero_iff, isLiteral_one_iff]
  split_ifs
  · rfl
  · simp
  · simp

theorem derivatives_eq_map (target : Symbol) (operands : List Node) :
    derivatives target operands = operands.map (derivative target) := by
  induction operands with
  | nil => rfl
  | cons operand operands hypothesis => rw [derivatives, hypothesis, List.map_cons]

/-- Deriving a node derives its expression. -/
theorem expr_derivative (target : Symbol) (node : Node) :
    (node.derivative target).expr = node.expr.derivative target := by
  induction node with
  | number value =>
      rw [derivative, expr_number, Expr.derivative]
      rfl
  | symbol name =>
      rw [derivative, expr_symbol, Expr.derivative]
      split_ifs <;> rfl
  | sum operands hypothesis =>
      have derived : (operands.map (derivative target)).map expr =
          (operands.map expr).map (Expr.derivative target) := by
        rw [List.map_map, List.map_map]
        exact List.map_congr_left hypothesis
      rw [derivative, expr_sumOfTerms, expr_sum, Expr.derivative, derivatives_eq_map,
        Derivative.derivatives_eq_map, ← derived]
      exact congrArg Expr.sumOfTerms (map_filter_of_eq (not_isLiteral_eq 0) _)
  | product operands hypothesis =>
      have paired : operands.zip (operands.map (derivative target)) =
          operands.map fun operand => (operand, operand.derivative target) := by
        have zipped := @List.zip_map' _ _ _ id (derivative target) operands
        rwa [List.map_id] at zipped
      rw [derivative, derivatives_eq_map, paired, expr_productRule, expr_product, Expr.derivative,
        Derivative.zip_derivatives, List.map_map, List.map_map]
      congr 1
      exact List.map_congr_left fun operand member => Prod.ext rfl (hypothesis operand member)
  | power base exponent hypothesis =>
      rw [derivative, expr_power, Expr.derivative]
      split_ifs
      · rfl
      · exact hypothesis
      · rw [expr_powerRule, hypothesis]

end Node
end Workbench
end ExactAlgebra
