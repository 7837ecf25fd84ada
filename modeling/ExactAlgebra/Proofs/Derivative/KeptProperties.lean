import ExactAlgebra.Proofs.Renaming.Derivative
import ExactAlgebra.Proofs.Simplify.Failure

/-!
# What derivatives are made of

A derivative is built from parts of the expression and from constants. The only new powers
have an exponent lowered by one, and an exponent one is never lowered. So every inherited
property that lowering an exponent keeps, derivatives keep as well: no variable comes in
from outside, and no exponent becomes zero. An expression without the variable has the
derivative zero, literally, since the rules drop terms and factors that are literally zero.
-/

namespace ExactAlgebra

/-- Only the exponent one is lowered to zero. -/
theorem Fraction.sub_one_eq_zero_iff {value : Fraction} : value - 1 = 0 ↔ value = 1 := by
  rw [← toRat_eq_zero_iff, toRat_sub, toRat_one, sub_eq_zero, ← toRat_one, toRat_inj]

namespace Expr

/-! ## Properties that derivatives keep -/

namespace IsInherited

variable {property : Expr → Prop} (inherited : IsInherited property)
include inherited

/-- The product rule puts operands and derivatives together. -/
theorem productRule
    {pairs : List (Expr × Expr)}
    (each : ∀ pair ∈ pairs, property pair.1 ∧ property pair.2) :
    property (Derivative.productRule pairs) := by
  have constants : ∀ factor ∈ (pairs.filter fun pair => pair.2 = 0).map Prod.fst,
      property factor :=
    List.forall_mem_map.mpr fun pair member => (each pair (List.mem_of_mem_filter member)).1
  have varying : ∀ pair ∈ pairs.filter fun pair => pair.2 ≠ 0,
      property pair.1 ∧ property pair.2 :=
    fun pair member => each pair (List.mem_of_mem_filter member)
  unfold Derivative.productRule
  dsimp only
  split
  · exact inherited.number 0
  · rename_i operand derivative single
    refine inherited.productOf (List.forall_mem_append.mpr ⟨constants, ?_⟩)
    rw [single] at varying
    exact List.forall_mem_singleton.mpr (varying _ List.mem_cons_self).2
  · apply inherited.sumOf
    refine List.forall_mem_map.mpr fun pick picked => ?_
    obtain ⟨pickedMember, otherMembers⟩ := Derivative.mem_of_mem_picks picked
    refine inherited.productOf (List.forall_mem_append.mpr ⟨?_, ?_⟩)
    · exact List.forall_mem_map.mpr fun other member =>
        (varying other (otherMembers other member)).1
    · exact List.forall_mem_cons.mpr ⟨(varying pick.1 pickedMember).2, constants⟩

/-- The power rule puts the exponent, the power with the lowered exponent and the inner
derivative together. -/
theorem powerRule
    {base inner : Expr}
    {exponent : Fraction}
    (lowered : property (power base (exponent - 1)))
    (innerHolds : property inner) :
    property (Derivative.powerRule base exponent inner) := by
  have coefficient := inherited.number exponent
  unfold Derivative.powerRule
  split
  · exact inherited.number 0
  · split
    · apply inherited.productOf
      simp only [List.forall_mem_cons, coefficient, lowered, true_and]
      exact List.forall_mem_nil _
    · apply inherited.productOf
      simp only [List.forall_mem_cons, coefficient, lowered, innerHolds, true_and]
      exact List.forall_mem_nil _

/-- Derivatives keep an inherited property that powers keep when an exponent other than
one is lowered. -/
theorem derivative
    (lowers : ∀ {base exponent}, exponent ≠ 1 →
      property (power base exponent) → property (power base (exponent - 1)))
    (target : Symbol)
    {expr : Expr}
    (holds : property expr) :
    property (expr.derivative target) := by
  induction expr with
  | number value => rw [Expr.derivative]; exact inherited.number 0
  | symbol name =>
      rw [Expr.derivative]
      split
      · exact inherited.number 1
      · exact inherited.number 0
  | sum operands hypothesis =>
      have each := (inherited.sum_iff operands).mp holds
      rw [Expr.derivative, Derivative.derivatives_eq_map]
      refine inherited.sumOfTerms fun term member => ?_
      obtain ⟨operand, inOperands, rfl⟩ := List.mem_map.mp (List.mem_of_mem_filter member)
      exact hypothesis operand inOperands (each operand inOperands)
  | product operands hypothesis =>
      have each := (inherited.product_iff operands).mp holds
      rw [Expr.derivative, Derivative.zip_derivatives]
      refine inherited.productRule (List.forall_mem_map.mpr fun operand member => ?_)
      exact ⟨each operand member, hypothesis operand member (each operand member)⟩
  | power base exponent hypothesis =>
      have inner := hypothesis (inherited.base holds)
      rw [Expr.derivative]
      split
      · exact inherited.number 0
      · split
        · exact inner
        · rename_i notOne
          exact inherited.powerRule (lowers notOne holds) inner

end IsInherited

/-! ## Variables -/

/-- The variables that occur in an expression have a property. -/
def EverySymbol (property : Symbol → Prop) (expr : Expr) : Prop :=
  ∀ name, (symbol name).OccursIn expr → property name

section EverySymbol

variable {property : Symbol → Prop}

@[simp] theorem everySymbol_symbol_iff {name : Symbol} :
    EverySymbol property (symbol name) ↔ property name := by
  refine ⟨fun every => every name .refl, fun holds other occurs => ?_⟩
  cases occurs with
  | refl => exact holds
  | child member => cases member

/-- What is no variable has no other variables than its parts. -/
theorem everySymbol_iff {expr : Expr} (notSymbol : expr.kind ≠ .symbol) :
    EverySymbol property expr ↔ ∀ child ∈ expr.children, EverySymbol property child := by
  constructor
  · exact fun every child member name occurs => every name (.child member occurs)
  · intro each name occurs
    cases occurs with
    | refl => exact absurd rfl notSymbol
    | child member inChild => exact each _ member name inChild

theorem everySymbol_power_iff {base : Expr} {exponent : Fraction} :
    EverySymbol property (power base exponent) ↔ EverySymbol property base := by
  rw [everySymbol_iff Kind.noConfusion]
  exact List.forall_mem_singleton

theorem isInherited_everySymbol : IsInherited (EverySymbol property) where
  number value := (@everySymbol_iff _ (number value) nofun).mpr (List.forall_mem_nil _)
  sum_iff _ := everySymbol_iff nofun
  product_iff _ := everySymbol_iff nofun
  base every := everySymbol_power_iff.mp every

end EverySymbol

/-- Every variable of a derivative is one of the expression. -/
theorem occursIn_of_occursIn_derivative
    {expr : Expr}
    {target name : Symbol}
    (occurs : (symbol name).OccursIn (expr.derivative target)) :
    (symbol name).OccursIn expr := by
  have inherited := @isInherited_everySymbol fun other => (symbol other).OccursIn expr
  refine inherited.derivative (fun _ every => ?_) target (fun _ => id) name occurs
  exact everySymbol_power_iff.mpr (everySymbol_power_iff.mp every)

/-- Without the variable the derivative is zero. -/
theorem derivative_eq_zero
    {expr : Expr}
    {target : Symbol}
    (absent : EverySymbol (· ≠ target) expr) :
    expr.derivative target = 0 := by
  induction expr with
  | number value => rw [derivative]
  | symbol name => rw [derivative, if_neg (everySymbol_symbol_iff.mp absent)]
  | sum operands hypothesis =>
      have each := (isInherited_everySymbol.sum_iff operands).mp absent
      have noTerms : (operands.map (derivative target)).filter (· ≠ 0) = [] := by
        rw [List.filter_eq_nil_iff]
        exact List.forall_mem_map.mpr fun operand member => by
          simp [hypothesis operand member (each operand member)]
      rw [derivative, Derivative.derivatives_eq_map, noTerms]
      rfl
  | product operands hypothesis =>
      have each := (isInherited_everySymbol.product_iff operands).mp absent
      have noFactors : (operands.map fun operand => (operand, operand.derivative target)).filter
          (fun pair => pair.2 ≠ 0) = [] := by
        rw [List.filter_eq_nil_iff]
        exact List.forall_mem_map.mpr fun operand member => by
          simp [hypothesis operand member (each operand member)]
      rw [derivative, Derivative.zip_derivatives, Derivative.productRule, noFactors]
  | power base exponent hypothesis =>
      have inner := hypothesis (everySymbol_power_iff.mp absent)
      rw [derivative, inner, Derivative.powerRule, if_pos rfl]
      simp

/-! ## Exponents -/

/-- A derivative has no exponent zero if the expression has none. -/
theorem everyExponent_ne_zero_derivative
    {expr : Expr}
    (nonzero : EveryExponent (· ≠ 0) expr)
    (target : Symbol) :
    EveryExponent (· ≠ 0) (expr.derivative target) := by
  have inherited := @isInherited_everyExponent (· ≠ 0)
  refine inherited.derivative (fun notOne every => ?_) target nonzero
  have inBase := (everyExponent_power_iff.mp every).1
  exact everyExponent_power_iff.mpr ⟨inBase, mt Fraction.sub_one_eq_zero_iff.mp notOne⟩

/-- Differentiation always succeeds and brings nothing in. It never refuses to build a sum
or a product. Every variable of the derivative is one of the expression, and if the
variable does not occur in the expression, the derivative is the constant zero. If the
expression has no exponent zero, the derivative has none either, so that simplifying it
can only be refused for a reciprocal of zero. -/
theorem derivative_brings_nothing_in
    {expr : Expr}
    (wellFormed : WellFormed expr)
    (target : Symbol) :
    Checked.derivative target expr = .ok (expr.derivative target) ∧
      (∀ name, (symbol name).OccursIn (expr.derivative target) → (symbol name).OccursIn expr) ∧
      (¬(symbol target).OccursIn expr → expr.derivative target = 0) ∧
      (EveryExponent (· ≠ 0) expr →
        EveryExponent (· ≠ 0) (expr.derivative target) ∧
          ∀ cause, (expr.derivative target).simplify = .error cause →
            cause = .arithmetic .zeroReciprocal) := by
  refine ⟨(Checked.agreesOnWellFormed_derivative target expr wellFormed).same,
    fun name => occursIn_of_occursIn_derivative, fun absent => ?_, fun nonzero => ?_⟩
  · exact derivative_eq_zero fun name occurs isTarget => absent (isTarget ▸ occurs)
  · have kept := everyExponent_ne_zero_derivative nonzero target
    exact ⟨kept, fun cause failure =>
      (canFailFor_of_simplify_eq_error failure).eq_zeroReciprocal kept⟩

/-- The cube of `x`, times the inverse of `y`. -/
def cubeOverSymbol : Expr :=
  product [power (symbol .x) (.ofInt 3), power (symbol .y) (.ofInt (-1))]

/-- The derivative with respect to `x` has no new variable and no exponent zero, and that
with respect to `z` is zero. -/
theorem derivative_brings_nothing_in_cubeOverSymbol :
    WellFormed cubeOverSymbol ∧
      Checked.derivative .x cubeOverSymbol = .ok (cubeOverSymbol.derivative .x) ∧
      (∀ name, (symbol name).OccursIn (cubeOverSymbol.derivative .x) →
        (symbol name).OccursIn cubeOverSymbol) ∧
      (¬(symbol .z).OccursIn cubeOverSymbol ∧ cubeOverSymbol.derivative .z = 0) ∧
      EveryExponent (· ≠ 0) cubeOverSymbol ∧
        EveryExponent (· ≠ 0) (cubeOverSymbol.derivative .x) ∧
          ∀ cause, (cubeOverSymbol.derivative .x).simplify = .error cause →
            cause = .arithmetic .zeroReciprocal := by
  have wellFormed : WellFormed cubeOverSymbol := by decide +kernel
  have absent : ¬(symbol .z).OccursIn cubeOverSymbol := by
    have others : EverySymbol (· ≠ .z) cubeOverSymbol := by
      refine (isInherited_everySymbol.product_iff _).mpr ?_
      simp only [List.forall_mem_cons, everySymbol_power_iff, everySymbol_symbol_iff]
      exact ⟨by decide, by decide, List.forall_mem_nil _⟩
    exact fun occurs => others .z occurs rfl
  have nonzero : EveryExponent (· ≠ 0) cubeOverSymbol := by decide +kernel
  obtain ⟨accepted, symbols, _, exponents⟩ := derivative_brings_nothing_in wellFormed .x
  have isZero := (derivative_brings_nothing_in wellFormed .z).2.2.1 absent
  exact ⟨wellFormed, accepted, symbols, ⟨absent, isZero⟩, nonzero, exponents nonzero⟩

end Expr
end ExactAlgebra
