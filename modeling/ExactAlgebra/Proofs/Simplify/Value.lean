import ExactAlgebra.Proofs.Simplify.Factors
import ExactAlgebra.Proofs.Simplify.Terms

/-!
# Simplification keeps values

Where an expression has a value, so does its simplified form, and it is the same
one. The rules cancel bases and evaluate powers without looking at the values of
variables. They are right because an expression with a value raises zero to
positive exponents only.

One step keeps values if the way it simplifies parts does, hence simplification to
any depth keeps them.
-/

namespace ExactAlgebra
namespace Simplify

open ExactAlgebra.Expr

variable {K : Type*} [CommRing K] [Algebra ℚ K] (assignment : Symbol → K)

/-- A power of a constant keeps its value. With an integer exponent it is a constant
again. -/
theorem eval_numberPower
    {base exponent : Fraction}
    {result : Expr}
    {value : K}
    (success : numberPower base exponent = .ok result)
    (defined : rationalPower (algebraMap ℚ K base.toRat) exponent = some value) :
    result.eval assignment = some value := by
  obtain ⟨integer, rfl, power⟩ := exists_integer_of_rationalPower_eq_some defined
  unfold numberPower at success
  obtain ⟨answer, mapped, rest⟩ := except_bind_eq_ok success
  obtain ⟨fraction, rfl, fractionValue, baseDefined⟩ :=
    Fraction.eq_some_of_pow_eq_ok rfl (eq_ok_of_mapError_eq_ok mapped)
  cases rest
  rw [Fraction.num_ofInt] at fractionValue baseDefined
  rw [integerPower_algebraMap (baseDefined.imp_left (mt Fraction.toRat_eq_zero_iff.mp))] at power
  rw [eval_number, fractionValue, ← power]

/-- Raising a simplified base keeps the value of the power. -/
theorem eval_raise
    {simplifyPart : Expr → Except RewriteError Expr}
    (keeps : KeepsValues assignment simplifyPart)
    {base result : Expr}
    {exponent : Fraction}
    {value : K}
    (success : raise simplifyPart base exponent = .ok result)
    (defined : (power base exponent).eval assignment = some value) :
    result.eval assignment = some value := by
  obtain ⟨inner, baseValue, outerPower⟩ := (eval_power_eq_some_iff assignment).mp defined
  cases raisesTo_of_raise_eq_ok success with
  | zero _ isZero =>
      rw [isZero] at outerPower
      rw [eval_one, eq_one_of_rationalPower_zero outerPower]
  | one _ isOne =>
      rw [isOne, rationalPower_one] at outerPower
      rw [baseValue, outerPower]
  | constant nonzero notOne found =>
      rw [eval_number] at baseValue
      cases baseValue
      exact eval_numberPower assignment found outerPower
  | nested nonzero notOne found =>
      obtain ⟨root, rootValue, innerPower⟩ := (eval_power_eq_some_iff assignment).mp baseValue
      apply keeps _ _ _ found
      exact (eval_power_eq_some_iff assignment).mpr
        ⟨root, rootValue, rationalPower_mul innerPower outerPower⟩
  | kept => exact defined

/-- A step keeps values if the way it simplifies parts does. -/
theorem keepsValues_step
    {simplifyPart : Expr → Except RewriteError Expr}
    (keeps : KeepsValues assignment simplifyPart) :
    KeepsValues assignment (step simplifyPart) := by
  intro expr result value success defined
  have parts : ∀ {operands simplified : List Expr}, operands.mapM simplifyPart = .ok simplified →
      List.Forall₂
        (fun operand part => ∀ value,
          eval assignment operand = some value → eval assignment part = some value)
        operands simplified := by
    intro operands simplified mapped
    exact (mapM_eq_ok_iff.mp mapped).imp fun operand part found value =>
      keeps operand part value found
  cases expr with
  | number fraction => cases success; exact defined
  | symbol name => cases success; exact defined
  | sum operands =>
      obtain ⟨simplified, mapped, last⟩ := except_bind_eq_ok success
      cases last
      rw [eval_sum] at defined
      apply eval_collectSum
      rw [strictSum_flatMap_summands]
      exact strictFold_forall₂ _ _ (parts mapped) defined
  | product operands =>
      obtain ⟨simplified, mapped, last⟩ := except_bind_eq_ok success
      rw [eval_product] at defined
      apply eval_collectProduct assignment keeps last
      rw [strictProduct_flatMap_factors]
      exact strictFold_forall₂ _ _ (parts mapped) defined
  | power base exponent =>
      obtain ⟨simplified, part, last⟩ := except_bind_eq_ok success
      obtain ⟨inner, baseValue, outerPower⟩ := (eval_power_eq_some_iff assignment).mp defined
      apply eval_raise assignment keeps last
      exact (eval_power_eq_some_iff assignment).mpr
        ⟨inner, keeps base simplified inner part baseValue, outerPower⟩

theorem keepsValues_toDepth (depth : Nat) : KeepsValues assignment (toDepth depth) := by
  induction depth with
  | zero =>
      intro expr result value success defined
      cases success
      exact defined
  | succ depth hypothesis => exact keepsValues_step assignment hypothesis

/-- Simplification keeps values in every commutative algebra over the rational
numbers. -/
theorem keepsValues_simplify : KeepsValues assignment Expr.simplify :=
  fun expr => keepsValues_toDepth assignment (expr.weight + 1) expr

end Simplify

namespace Expr

/-- Where an expression has a rational value, its simplified form has the same
value. -/
theorem eval_simplify
    (assignment : Symbol → ℚ)
    {expr result : Expr}
    {value : ℚ}
    (simplified : expr.simplify = .ok result)
    (defined : expr.eval assignment = some value) :
    result.eval assignment = some value :=
  Simplify.keepsValues_simplify assignment expr result value simplified defined

/-- The product of `x`, squared and inverted, with the sum of two and three. -/
def reducibleProduct : Expr :=
  product [power (symbol .x) (.ofInt (-1)), power (symbol .x) (.ofInt 2),
    sum [number (.ofInt 2), number (.ofInt 3)]]

theorem eval_simplify_reducibleProduct :
    ∃ result,
      reducibleProduct.simplify = .ok result ∧
        reducibleProduct.eval (fun _ => (2 : ℚ)) = some 10 ∧
          result.eval (fun _ => (2 : ℚ)) = some 10 := by
  have simplified : reducibleProduct.simplify =
      .ok (product [number 5, symbol .x]) := by
    decide +kernel
  have defined : reducibleProduct.eval (fun _ => (2 : ℚ)) = some 10 := by
    simp only [reducibleProduct, eval_product, eval_power, eval_symbol, eval_sum, eval_number,
      List.map_cons, List.map_nil, strictProduct_cons, strictProduct_nil, strictSum_cons,
      strictSum_nil, Option.bind_some, rationalPower_ofInt, integerPower_rat,
      Fraction.toRat_ofInt]
    norm_num
  exact ⟨_, simplified, defined, eval_simplify _ simplified defined⟩

end Expr
end ExactAlgebra
