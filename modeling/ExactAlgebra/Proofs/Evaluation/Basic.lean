import ExactAlgebra.Expr.Build
import ExactAlgebra.Rewrite.Error
import ExactAlgebra.Proofs.Evaluation.IntegerPower
import ExactAlgebra.Proofs.Evaluation.StrictFold
import ExactAlgebra.Proofs.Fraction.IntegerPower

/-!
# Values of expressions

Expressions have values in every commutative algebra over the rational numbers,
once its variables are assigned elements of the algebra. Evaluation is strict: an
expression has a value only when all its parts do. A power needs an integer
exponent, and a base that can be inverted unless the exponent is positive. Over
the rational numbers, zero to the exponent zero and zero to a negative exponent
are all that this leaves undefined among powers with integer exponents.
-/

namespace ExactAlgebra

namespace Fraction

theorem eq_ofInt_of_isInteger {fraction : Fraction} (integer : fraction.isInteger = true) :
    fraction = ofInt fraction.num :=
  ext rfl (of_decide_eq_true integer)

@[simp] theorem isInteger_ofInt (number : Int) : (ofInt number).isInteger = true := rfl

@[simp] theorem ofInt_add (left right : Int) : ofInt left + ofInt right = ofInt (left + right) := by
  apply toRat_injective
  simp

@[simp] theorem ofInt_mul (left right : Int) : ofInt left * ofInt right = ofInt (left * right) := by
  apply toRat_injective
  simp

end Fraction

namespace Symbol

/-- The variable `x`. -/
def x : Symbol := ⟨"x", by decide⟩

/-- The variable `y`. -/
def y : Symbol := ⟨"y", by decide⟩

/-- The variable `z`. -/
def z : Symbol := ⟨"z", by decide⟩

end Symbol

variable {K : Type*} [CommRing K]

/-- The power with a rational exponent, if the exponent is an integer and the power
exists. -/
noncomputable def rationalPower (base : K) (exponent : Fraction) : Option K :=
  if exponent.isInteger then integerPower base exponent.num else none

@[simp] theorem rationalPower_ofInt (base : K) (exponent : Int) :
    rationalPower base (.ofInt exponent) = integerPower base exponent := rfl

theorem exists_integer_of_rationalPower_eq_some
    {base result : K}
    {exponent : Fraction}
    (defined : rationalPower base exponent = some result) :
    ∃ integer : Int, exponent = .ofInt integer ∧ integerPower base integer = some result := by
  unfold rationalPower at defined
  split at defined
  · rename_i integer
    exact ⟨exponent.num, Fraction.eq_ofInt_of_isInteger integer, defined⟩
  · cases defined

@[simp] theorem rationalPower_one (base : K) : rationalPower base 1 = some base :=
  integerPower_one base

theorem eq_one_of_rationalPower_zero
    {base result : K}
    (defined : rationalPower base 0 = some result) :
    result = 1 :=
  eq_one_of_integerPower_zero defined

theorem rationalPower_add
    {base left right : K}
    {first second : Fraction}
    (leftPower : rationalPower base first = some left)
    (rightPower : rationalPower base second = some right) :
    rationalPower base (first + second) = some (left * right) := by
  obtain ⟨first, rfl, leftPower⟩ := exists_integer_of_rationalPower_eq_some leftPower
  obtain ⟨second, rfl, rightPower⟩ := exists_integer_of_rationalPower_eq_some rightPower
  rw [Fraction.ofInt_add]
  exact integerPower_add leftPower rightPower

theorem rationalPower_mul
    {base inner result : K}
    {first second : Fraction}
    (innerPower : rationalPower base first = some inner)
    (outerPower : rationalPower inner second = some result) :
    rationalPower base (first * second) = some result := by
  obtain ⟨first, rfl, innerPower⟩ := exists_integer_of_rationalPower_eq_some innerPower
  obtain ⟨second, rfl, outerPower⟩ := exists_integer_of_rationalPower_eq_some outerPower
  rw [Fraction.ofInt_mul]
  exact integerPower_mul innerPower outerPower

/-! ## Strict sums and products -/

instance lawfulIdentity_add : Std.LawfulIdentity (α := K) (· + ·) 0 where
  left_id := zero_add
  right_id := add_zero

/-- The total of the values, if all are defined. -/
def strictSum (values : List (Option K)) : Option K :=
  strictFold (· + ·) 0 values

/-- The product of the values, if all are defined. -/
def strictProduct (values : List (Option K)) : Option K :=
  strictFold (· * ·) 1 values

@[simp] theorem strictSum_nil : strictSum ([] : List (Option K)) = some 0 := rfl

@[simp] theorem strictProduct_nil : strictProduct ([] : List (Option K)) = some 1 := rfl

@[simp] theorem strictSum_cons (value : Option K) (values : List (Option K)) :
    strictSum (value :: values) = Option.map₂ (· + ·) value (strictSum values) := rfl

@[simp] theorem strictProduct_cons (value : Option K) (values : List (Option K)) :
    strictProduct (value :: values) = Option.map₂ (· * ·) value (strictProduct values) := rfl

theorem strictSum_singleton (value : Option K) : strictSum [value] = value :=
  strictFold_singleton _ _ value

theorem strictProduct_singleton (value : Option K) : strictProduct [value] = value :=
  strictFold_singleton _ _ value

theorem strictSum_append (left right : List (Option K)) :
    strictSum (left ++ right) = Option.map₂ (· + ·) (strictSum left) (strictSum right) :=
  strictFold_append _ _ left right

theorem strictProduct_append (left right : List (Option K)) :
    strictProduct (left ++ right) =
      Option.map₂ (· * ·) (strictProduct left) (strictProduct right) :=
  strictFold_append _ _ left right

theorem strictSum_map_eq_some
    {inputs : List α}
    {function : α → Option K}
    {value : α → K}
    (each : ∀ input ∈ inputs, function input = some (value input)) :
    strictSum (inputs.map function) = some (inputs.map value).sum :=
  strictFold_map_eq_some _ _ each

theorem strictProduct_map_eq_some
    {inputs : List α}
    {function : α → Option K}
    {value : α → K}
    (each : ∀ input ∈ inputs, function input = some (value input)) :
    strictProduct (inputs.map function) = some (inputs.map value).prod :=
  strictFold_map_eq_some _ _ each

theorem strictSum_map_eq_none_iff {inputs : List α} {function : α → Option K} :
    strictSum (inputs.map function) = none ↔ ∃ input ∈ inputs, function input = none := by
  rw [strictSum, strictFold_eq_none_iff, List.mem_map]

theorem strictProduct_map_eq_none_iff {inputs : List α} {function : α → Option K} :
    strictProduct (inputs.map function) = none ↔ ∃ input ∈ inputs, function input = none := by
  rw [strictProduct, strictFold_eq_none_iff, List.mem_map]

theorem strictSum_perm {left right : List (Option K)} (perm : left.Perm right) :
    strictSum left = strictSum right :=
  strictFold_perm _ _ perm

theorem strictProduct_perm {left right : List (Option K)} (perm : left.Perm right) :
    strictProduct left = strictProduct right :=
  strictFold_perm _ _ perm

namespace Expr

variable [Algebra ℚ K]

mutual
/-- The value of an expression under an assignment of values to its variables. -/
noncomputable def eval (assignment : Symbol → K) : Expr → Option K
  | number value => some (algebraMap ℚ K value.toRat)
  | symbol name => some (assignment name)
  | sum operands => strictSum (evalAll assignment operands)
  | product operands => strictProduct (evalAll assignment operands)
  | power base exponent =>
      (eval assignment base).bind fun value => rationalPower value exponent
/-- The values of a list of expressions. -/
noncomputable def evalAll (assignment : Symbol → K) : List Expr → List (Option K)
  | [] => []
  | operand :: operands => eval assignment operand :: evalAll assignment operands
end

variable (assignment : Symbol → K)

theorem evalAll_eq_map (operands : List Expr) :
    evalAll assignment operands = operands.map (eval assignment) := by
  induction operands with
  | nil => rfl
  | cons operand operands hypothesis => rw [evalAll, hypothesis, List.map_cons]

@[simp] theorem eval_number (value : Fraction) :
    (number value).eval assignment = some (algebraMap ℚ K value.toRat) := by
  rw [eval]

@[simp] theorem eval_symbol (name : Symbol) :
    (symbol name).eval assignment = some (assignment name) := by
  rw [eval]

@[simp] theorem eval_sum (operands : List Expr) :
    (sum operands).eval assignment = strictSum (operands.map (eval assignment)) := by
  rw [eval, evalAll_eq_map]

@[simp] theorem eval_product (operands : List Expr) :
    (product operands).eval assignment = strictProduct (operands.map (eval assignment)) := by
  rw [eval, evalAll_eq_map]

@[simp] theorem eval_power (base : Expr) (exponent : Fraction) :
    (power base exponent).eval assignment =
      (base.eval assignment).bind fun value => rationalPower value exponent := by
  rw [eval]

theorem eval_power_eq_some_iff {base : Expr} {exponent : Fraction} {result : K} :
    (power base exponent).eval assignment = some result ↔
      ∃ value, base.eval assignment = some value ∧ rationalPower value exponent = some result := by
  rw [eval_power, Option.bind_eq_some_iff]

@[simp] theorem eval_zero : (0 : Expr).eval assignment = some 0 := by
  change (number 0).eval assignment = _
  rw [eval_number, Fraction.toRat_zero, map_zero]

@[simp] theorem eval_one : (1 : Expr).eval assignment = some 1 := by
  change (number 1).eval assignment = _
  rw [eval_number, Fraction.toRat_one, map_one]

/-! ## Values of built sums and products -/

theorem eval_sumOf (operands : List Expr) :
    (sumOf operands).eval assignment = strictSum (operands.map (eval assignment)) := by
  rw [sumOf, eval_sum]
  exact strictSum_perm ((Sorting.perm_sort le operands).map _)

theorem eval_productOf (operands : List Expr) :
    (productOf operands).eval assignment = strictProduct (operands.map (eval assignment)) := by
  rw [productOf, eval_product]
  exact strictProduct_perm ((Sorting.perm_sort le operands).map _)

@[simp] theorem eval_sumOfTerms (terms : List Expr) :
    (sumOfTerms terms).eval assignment = strictSum (terms.map (eval assignment)) := by
  match terms with
  | [] => exact eval_zero assignment
  | [term] => exact (strictSum_singleton _).symm
  | first :: second :: others => exact eval_sumOf assignment _

@[simp] theorem eval_productOfFactors (factors : List Expr) :
    (productOfFactors factors).eval assignment = strictProduct (factors.map (eval assignment)) := by
  match factors with
  | [] => exact eval_one assignment
  | [factor] => exact (strictProduct_singleton _).symm
  | first :: second :: others => exact eval_productOf assignment _

theorem strictSum_summands (expr : Expr) :
    strictSum (expr.summands.map (eval assignment)) = expr.eval assignment := by
  cases expr with
  | sum operands => exact (eval_sum assignment operands).symm
  | _ => exact strictSum_singleton _

theorem strictProduct_factors (expr : Expr) :
    strictProduct (expr.factors.map (eval assignment)) = expr.eval assignment := by
  cases expr with
  | product operands => exact (eval_product assignment operands).symm
  | _ => exact strictProduct_singleton _

/-- Splicing sums into the list of their terms keeps the total. -/
theorem strictSum_flatMap_summands (operands : List Expr) :
    strictSum ((operands.flatMap summands).map (eval assignment)) =
      strictSum (operands.map (eval assignment)) :=
  strictFold_map_flatMap _ _ (strictSum_summands assignment) operands

/-- Splicing products into the list of their factors keeps the product. -/
theorem strictProduct_flatMap_factors (operands : List Expr) :
    strictProduct ((operands.flatMap factors).map (eval assignment)) =
      strictProduct (operands.map (eval assignment)) :=
  strictFold_map_flatMap _ _ (strictProduct_factors assignment) operands

/-- A way to rewrite expressions that keeps every value under the assignment. -/
def KeepsValues (rewrite : Expr → Except RewriteError Expr) : Prop :=
  ∀ expr result value, rewrite expr = .ok result →
    expr.eval assignment = some value → result.eval assignment = some value

end Expr
end ExactAlgebra
