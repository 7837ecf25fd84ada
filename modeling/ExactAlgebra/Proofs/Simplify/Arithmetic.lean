import ExactAlgebra.Proofs.Simplify.FixedPoint
import ExactAlgebra.Proofs.Simplify.Value

/-!
# Simplification evaluates arithmetic

An arithmetic expression has no variables and integer exponents only. Over the
rational numbers it has a value unless one of its parts raises zero to an exponent
that is not positive. Simplification decides this question: it ends with the value
where there is one, and refuses the expression otherwise. In particular the factor
zero hides no other factor without a value, since all factors are simplified before
any of them is looked at.
-/

namespace ExactAlgebra

/-- Zero was raised to an exponent that is not positive. -/
def RewriteError.IsUndefinedPower (cause : RewriteError) : Prop :=
  cause = .arithmetic .zeroReciprocal ∨ cause = .zeroToTheZero

namespace Expr

/-- The expression is built from constants by sums, products and powers with integer
exponents. -/
inductive IsArithmetic : Expr → Prop
  | number (value : Fraction) : IsArithmetic (number value)
  | sum
      (operands : List Expr)
      (arithmetic : ∀ operand ∈ operands, IsArithmetic operand) :
      IsArithmetic (sum operands)
  | product
      (operands : List Expr)
      (arithmetic : ∀ operand ∈ operands, IsArithmetic operand) :
      IsArithmetic (product operands)
  | power
      (base : Expr)
      (exponent : Int)
      (arithmetic : IsArithmetic base) :
      IsArithmetic (power base (.ofInt exponent))

theorem anyContainsSymbols_eq_false
    {operands : List Expr}
    (each : ∀ operand ∈ operands, operand.containsSymbols = false) :
    anyContainsSymbols operands = false := by
  induction operands with
  | nil => rw [anyContainsSymbols]
  | cons operand operands hypothesis =>
      obtain ⟨here, there⟩ := List.forall_mem_cons.mp each
      rw [anyContainsSymbols, here, hypothesis there]
      rfl

theorem IsArithmetic.containsSymbols_eq_false {expr : Expr} (arithmetic : IsArithmetic expr) :
    expr.containsSymbols = false := by
  induction arithmetic with
  | number value => rw [containsSymbols]
  | sum operands _ hypothesis => rw [containsSymbols, anyContainsSymbols_eq_false hypothesis]
  | product operands _ hypothesis => rw [containsSymbols, anyContainsSymbols_eq_false hypothesis]
  | power base exponent _ hypothesis => rw [containsSymbols, hypothesis]

/-- The constant with the given value. -/
def ofRat (value : ℚ) : Expr :=
  number (.ofRat value)

theorem eval_number_eq_toRat (assignment : Symbol → ℚ) (value : Fraction) :
    (number value).eval assignment = some value.toRat := by
  rw [eval_number, Algebra.algebraMap_self_apply]

/-- A rewriting ends with the constant for a value, and with the refusal of an
undefined power for none. -/
def Evaluates (outcome : Except RewriteError Expr) : Option ℚ → Prop
  | some value => outcome = .ok (ofRat value)
  | none => ∃ cause, outcome = .error cause ∧ cause.IsUndefinedPower

section Evaluates

variable {rewrite : Expr → Except RewriteError Expr} {value : Expr → Option ℚ}
variable {operands : List Expr}

/-- Operands with values are all rewritten to constants; otherwise the list is refused
for one that has none. -/
theorem mapM_of_evaluates
    (each : ∀ operand ∈ operands, Evaluates (rewrite operand) (value operand)) :
    (∃ values : List ℚ,
      operands.map value = values.map some ∧ operands.mapM rewrite = .ok (values.map ofRat)) ∨
    ∃ cause,
      none ∈ operands.map value ∧
        operands.mapM rewrite = .error cause ∧ cause.IsUndefinedPower := by
  induction operands with
  | nil => exact Or.inl ⟨[], rfl, rfl⟩
  | cons operand operands hypothesis =>
      obtain ⟨here, there⟩ := List.forall_mem_cons.mp each
      rw [List.map_cons, List.mapM_cons]
      cases found : value operand with
      | none =>
          rw [found] at here
          obtain ⟨cause, refused, undefined⟩ := here
          exact Or.inr ⟨cause, List.mem_cons_self, by rw [refused]; rfl, undefined⟩
      | some first =>
          rw [found] at here
          rw [here]
          rcases hypothesis there with ⟨values, defined, mapped⟩ | ⟨cause, missing, refused, undefined⟩
          · exact Or.inl ⟨first :: values, by rw [defined]; rfl, by rw [mapped]; rfl⟩
          · exact Or.inr ⟨cause, List.mem_cons_of_mem _ missing, by rw [refused]; rfl, undefined⟩

/-- Rewriting the operands first and putting the constants together afterwards evaluates
strictly. -/
theorem evaluates_mapM_bind
    {assemble : List Expr → Except RewriteError Expr}
    {op : ℚ → ℚ → ℚ}
    {unit : ℚ}
    (each : ∀ operand ∈ operands, Evaluates (rewrite operand) (value operand))
    (assembles : ∀ values : List ℚ,
      assemble (values.map ofRat) = .ok (ofRat (values.foldr op unit))) :
    Evaluates (operands.mapM rewrite >>= assemble) (strictFold op unit (operands.map value)) := by
  rcases mapM_of_evaluates each with ⟨values, defined, mapped⟩ | ⟨cause, missing, refused, undefined⟩
  · rw [mapped, defined, strictFold_map_eq_some op unit fun value _ => rfl, List.map_id']
    exact assembles values
  · rw [refused, (strictFold_eq_none_iff op unit).mpr missing]
    exact ⟨cause, rfl, undefined⟩

end Evaluates

end Expr

namespace Simplify

open ExactAlgebra.Expr

/-! ## Collecting constants -/

theorem filterMap_value?_map_ofRat (values : List ℚ) :
    (values.map ofRat).filterMap value? = values.map .ofRat := by
  induction values with
  | nil => rfl
  | cons value values hypothesis =>
      rw [List.map_cons, List.map_cons, ← hypothesis]
      rfl

theorem filter_not_isNumber_map_ofRat (values : List ℚ) :
    (values.map ofRat).filter (!·.isNumber) = [] := by
  rw [List.filter_eq_nil_iff]
  intro constant member
  obtain ⟨value, _, rfl⟩ := List.mem_map.mp member
  exact Bool.noConfusion

theorem toRat_map_ofRat (values : List ℚ) :
    (values.map Fraction.ofRat).map Fraction.toRat = values := by
  rw [List.map_map]
  exact List.map_id values

theorem constantTerm_map_ofRat (values : List ℚ) :
    constantTerm (values.map ofRat) = .ofRat values.sum := by
  apply Fraction.toRat_injective
  rw [constantTerm, filterMap_value?_map_ofRat, toRat_foldl_add, toRat_map_ofRat,
    Fraction.toRat_zero, zero_add, Fraction.toRat_ofRat]

theorem constantFactor_map_ofRat (values : List ℚ) :
    constantFactor (values.map ofRat) = .ofRat values.prod := by
  apply Fraction.toRat_injective
  rw [constantFactor, filterMap_value?_map_ofRat, toRat_foldl_mul, toRat_map_ofRat,
    Fraction.toRat_one, one_mul, Fraction.toRat_ofRat]

/-- Constants add up to one constant. -/
theorem collectSum_map_ofRat (values : List ℚ) :
    collectSum (values.map ofRat) = ofRat values.sum := by
  have noTerms : termTally (values.map ofRat) = [] := by
    rw [termTally, filter_not_isNumber_map_ofRat]
    rfl
  simp only [collectSum, noTerms, constantTerm_map_ofRat, List.filterMap_nil]
  split
  · rename_i isZero
    exact congrArg number isZero.symm
  · rfl

/-- Constants multiply to one constant. -/
theorem collectProduct_map_ofRat
    (simplifyPart : Expr → Except RewriteError Expr)
    (values : List ℚ) :
    collectProduct simplifyPart (values.map ofRat) = .ok (ofRat values.prod) := by
  have noFactors : factorTally (values.map ofRat) = [] := by
    rw [factorTally, filter_not_isNumber_map_ofRat]
    rfl
  have coefficient : Fraction.ofRat values.prod * constantFactor [] = .ofRat values.prod := by
    apply Fraction.toRat_injective
    rw [Fraction.toRat_mul, Fraction.toRat_ofRat]
    exact mul_one _
  simp only [collectProduct, noFactors, constantFactor_map_ofRat]
  split
  · rename_i isZero
    exact congrArg (Except.ok ∘ number) isZero.symm
  · rename_i nonzero
    change Except.ok (assembleProduct (Fraction.ofRat values.prod * constantFactor []) []) = _
    rw [coefficient, assembleProduct, if_neg nonzero]
    split
    · rename_i isOne
      exact congrArg (Except.ok ∘ number) isOne.symm
    · rfl

/-! ## Powers of constants -/

/-- The power of a constant with an integer exponent is evaluated. -/
theorem evaluates_numberPower (value : ℚ) (exponent : Int) (nonzero : exponent ≠ 0) :
    Evaluates (numberPower (.ofRat value) (.ofInt exponent)) (integerPower value exponent) := by
  rw [integerPower_rat]
  split
  · rename_i undefined
    have negative : exponent < 0 := by omega
    refine ⟨.arithmetic .zeroReciprocal, ?_, Or.inl rfl⟩
    rw [numberPower, undefined.1, Fraction.ofRat_zero, Fraction.pow_zero_of_num_neg negative]
    rfl
  · rename_i defined
    have baseDefined : Fraction.ofRat value ≠ 0 ∨ 0 < (Fraction.ofInt exponent).num := by
      rw [Ne, Fraction.ofRat_eq_zero_iff, Fraction.num_ofInt, ← not_le, ← not_and_or]
      exact defined
    obtain ⟨result, power, resultValue⟩ := Fraction.exists_pow_eq_ok rfl baseDefined
    rw [numberPower, power]
    change Except.ok (number result) = .ok (number (.ofRat _))
    rw [← Fraction.ofRat_toRat result, resultValue]
    rfl

/-- Raising a constant to an integer exponent is evaluated, the exponents zero and one
included. -/
theorem evaluates_raise
    (simplifyPart : Expr → Except RewriteError Expr)
    (value : ℚ)
    (exponent : Int) :
    Evaluates (raise simplifyPart (ofRat value) (.ofInt exponent))
      (integerPower value exponent) := by
  unfold raise
  by_cases isZero : exponent = 0
  · subst isZero
    rw [if_pos (Fraction.ofInt_eq_zero_iff.mpr rfl), checkZeroExponent, integerPower_rat]
    by_cases baseZero : value = 0
    · subst baseZero
      exact ⟨.zeroToTheZero, rfl, Or.inr rfl⟩
    · have notLiteral : ofRat value ≠ 0 := by
        intro literal
        injection literal with valueZero
        exact baseZero (Fraction.ofRat_eq_zero_iff.mp valueZero)
      have noSymbols : (ofRat value).containsSymbols = false := by
        rw [ofRat, containsSymbols]
      rw [if_neg notLiteral, noSymbols, if_neg Bool.false_ne_true,
        if_neg fun both => baseZero both.1, zpow_zero]
      rfl
  · rw [if_neg (mt Fraction.ofInt_eq_zero_iff.mp isZero)]
    by_cases isOne : exponent = 1
    · subst isOne
      rw [if_pos (Fraction.ofInt_eq_one_iff.mpr rfl), integerPower_one]
      rfl
    · rw [if_neg (mt Fraction.ofInt_eq_one_iff.mp isOne)]
      exact evaluates_numberPower value exponent isZero

end Simplify

namespace Expr

open ExactAlgebra.Simplify

theorem flatMap_summands_map_ofRat (values : List ℚ) :
    (values.map ofRat).flatMap summands = values.map ofRat := by
  apply flatMap_summands_eq_self
  rw [List.forall_mem_map]
  exact fun _ _ => Kind.noConfusion

theorem flatMap_factors_map_ofRat (values : List ℚ) :
    (values.map ofRat).flatMap factors = values.map ofRat := by
  apply flatMap_factors_eq_self
  rw [List.forall_mem_map]
  exact fun _ _ => Kind.noConfusion

/-- Simplification evaluates arithmetic expressions, by induction on how they are
built. -/
theorem IsArithmetic.evaluates_simplify
    (assignment : Symbol → ℚ)
    {expr : Expr}
    (arithmetic : IsArithmetic expr) :
    Evaluates expr.simplify (expr.eval assignment) := by
  induction arithmetic with
  | number value =>
      rw [simplify_eq_step, eval_number_eq_toRat]
      rfl
  | sum operands _ hypothesis =>
      rw [simplify_eq_step, eval_sum]
      refine evaluates_mapM_bind hypothesis fun values => ?_
      rw [flatMap_summands_map_ofRat, collectSum_map_ofRat]
      rfl
  | product operands _ hypothesis =>
      rw [simplify_eq_step, eval_product]
      refine evaluates_mapM_bind hypothesis fun values => ?_
      rw [flatMap_factors_map_ofRat, collectProduct_map_ofRat]
      rfl
  | power base exponent _ hypothesis =>
      rw [simplify_eq_step, eval_power]
      cases found : base.eval assignment with
      | none =>
          rw [found] at hypothesis
          obtain ⟨cause, refused, undefined⟩ := hypothesis
          exact ⟨cause, by rw [Simplify.step, refused]; rfl, undefined⟩
      | some value =>
          rw [found] at hypothesis
          rw [Simplify.step, hypothesis]
          exact evaluates_raise simplify value exponent

/-- Simplification is an exact evaluator of arithmetic expressions: it succeeds with
nothing but the constant of the value, and fails for an undefined power exactly where
there is no value. -/
theorem simplify_of_isArithmetic
    (assignment : Symbol → ℚ)
    {expr : Expr}
    (arithmetic : IsArithmetic expr) :
    (∀ result, expr.simplify = .ok result ↔
        ∃ value, expr.eval assignment = some value ∧ result = number (.ofRat value)) ∧
      (expr.eval assignment = none ↔
        expr.simplify = .error (.arithmetic .zeroReciprocal) ∨
          expr.simplify = .error .zeroToTheZero) := by
  have evaluates := arithmetic.evaluates_simplify assignment
  cases found : expr.eval assignment with
  | none =>
      rw [found] at evaluates
      obtain ⟨cause, refused, rfl | rfl⟩ := evaluates
      all_goals simp [refused]
  | some value =>
      rw [found] at evaluates
      change expr.simplify = _ at evaluates
      simp [evaluates, ofRat, eq_comm]

/-- Zero times the inverse of `1 - 1`. -/
def zeroOverZero : Expr :=
  product [0, power (sum [number (.ofInt (-1)), number (.ofInt 1)]) (.ofInt (-1))]

theorem simplify_of_isArithmetic_zeroOverZero :
    IsArithmetic zeroOverZero ∧
      zeroOverZero.eval (fun _ => (0 : ℚ)) = none ∧
        zeroOverZero.simplify = .error (.arithmetic .zeroReciprocal) := by
  have difference : IsArithmetic (sum [number (.ofInt (-1)), number (.ofInt 1)]) :=
    .sum _ (by simpa using ⟨.number _, .number _⟩)
  have arithmetic : IsArithmetic zeroOverZero :=
    .product _ (by simpa using ⟨.number _, .power _ _ difference⟩)
  have refused : zeroOverZero.simplify = .error (.arithmetic .zeroReciprocal) := by
    decide +kernel
  exact ⟨arithmetic, (simplify_of_isArithmetic _ arithmetic).2.mpr (Or.inl refused), refused⟩

end Expr
end ExactAlgebra
