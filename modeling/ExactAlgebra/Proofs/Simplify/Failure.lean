import ExactAlgebra.Proofs.Guarded.Stages
import ExactAlgebra.Proofs.Simplify.Exponents

/-!
# What simplification refuses

Simplification fails for three causes only. Which of them can come up is decided by the
exponents of the expression. Where nothing is raised to the exponent zero, a power of zero
with a negative exponent is all that is refused, and where all exponents are positive,
nothing is.

The exponents that come up on the way do not add to this. The ones that are asked for in
calls are not zero, since simplified expressions have no power with the exponent zero, and
those that cancel are dropped before they are asked for. The dropped powers have a base
other than zero, because a simplified expression has no power of the literal zero.
-/

namespace ExactAlgebra

namespace Fraction

/-- The product of fractions other than zero is not zero. -/
theorem mul_ne_zero
    {left right : Fraction}
    (leftNonzero : left ≠ 0)
    (rightNonzero : right ≠ 0) :
    left * right ≠ 0 := by
  rw [Ne, ← toRat_eq_zero_iff, toRat_mul, mul_eq_zero, not_or]
  exact ⟨mt toRat_eq_zero_iff.mp leftNonzero, mt toRat_eq_zero_iff.mp rightNonzero⟩

/-- Zero with a positive exponent has zero as its power. -/
theorem pow_zero_ne_none {exponent : Fraction} (positive : 0 < exponent.num) :
    pow 0 exponent ≠ .ok none := by
  rw [Ne, pow_eq_ok_iff, answersRoot_none_iff]
  rintro ⟨_, noRoot⟩
  refine noRoot ⟨0, ?_, fun _ => le_rfl⟩
  rw [toRat_zero, zero_pow exponent.den_pos.ne', zero_zpow _ positive.ne']

end Fraction

namespace Expr

/-- The causes that an expression can fail to be simplified for. Only a power with the
exponent zero leads to a cause other than the reciprocal of zero, and its simplified base
tells which one. -/
inductive CanFailFor (expr : Expr) : RewriteError → Prop
  | zeroReciprocal : CanFailFor expr (.arithmetic .zeroReciprocal)
  | zeroToTheZero {base : Expr}
      (occurs : (power base 0).OccursIn expr)
      (simplified : base.simplify = .ok 0) :
      CanFailFor expr .zeroToTheZero
  | indeterminate {base culprit : Expr}
      (occurs : (power base 0).OccursIn expr)
      (simplified : base.simplify = .ok culprit)
      (varies : culprit.containsSymbols = true) :
      CanFailFor expr (.indeterminate culprit)

/-- What a part can fail for, the whole can fail for. -/
theorem CanFailFor.of_child
    {whole part : Expr}
    {cause : RewriteError}
    (member : part ∈ whole.children)
    (fails : CanFailFor part cause) :
    CanFailFor whole cause := by
  cases fails with
  | zeroReciprocal => exact .zeroReciprocal
  | zeroToTheZero occurs simplified => exact .zeroToTheZero (.child member occurs) simplified
  | indeterminate occurs simplified varies =>
      exact .indeterminate (.child member occurs) simplified varies

/-- Without the exponent zero the reciprocal of zero is the only cause. -/
theorem CanFailFor.eq_zeroReciprocal
    {expr : Expr}
    {cause : RewriteError}
    (fails : CanFailFor expr cause)
    (nonzero : EveryExponent (· ≠ 0) expr) :
    cause = .arithmetic .zeroReciprocal := by
  cases fails with
  | zeroReciprocal => rfl
  | zeroToTheZero occurs => exact absurd rfl (nonzero _ _ occurs)
  | indeterminate occurs => exact absurd rfl (nonzero _ _ occurs)

end Expr

namespace Simplify

open ExactAlgebra.Expr

/-! ## Failures of a step -/

/-- Only the reciprocal of zero is refused when a constant is raised. -/
theorem eq_zeroReciprocal_of_numberPower_eq_error
    {value exponent : Fraction}
    {cause : RewriteError}
    (nonzero : exponent ≠ 0)
    (failure : numberPower value exponent = .error cause) :
    cause = .arithmetic .zeroReciprocal := by
  unfold numberPower at failure
  cases powered : value.pow exponent with
  | error refused =>
      rw [powered] at failure
      cases failure
      rcases (Fraction.pow_eq_error_iff.mp powered).2 with ⟨isZero, _⟩ | ⟨_, rfl⟩
      · exact absurd isZero nonzero
      · rfl
  | ok answer =>
      rw [powered] at failure
      cases answer with
      | some power => cases failure
      | none =>
          change (if exponent.num < 0 then _ else _) = _ at failure
          split at failure
          · rename_i negative
            have defined := (Fraction.pow_eq_ok_iff.mp powered).1
            obtain ⟨inverse, inverted, _⟩ :=
              Fraction.exists_reciprocal_eq_ok (defined.resolve_right (by omega))
            rw [inverted] at failure
            cases failure
          · cases failure

/-- The ways in which raising a simplified base to an exponent fails. -/
inductive RaiseFails
    (simplifyPart : Expr → Except RewriteError Expr)
    (exponent : Fraction) : Expr → RewriteError → Prop
  | zeroToTheZero (isZero : exponent = 0) :
      RaiseFails simplifyPart exponent 0 .zeroToTheZero
  | indeterminate {base : Expr}
      (isZero : exponent = 0)
      (varies : base.containsSymbols = true) :
      RaiseFails simplifyPart exponent base (.indeterminate base)
  | zeroReciprocal (base : Expr) :
      RaiseFails simplifyPart exponent base (.arithmetic .zeroReciprocal)
  | nested {inner : Expr} {innerExponent : Fraction} {cause : RewriteError}
      (nonzero : exponent ≠ 0)
      (notOne : exponent ≠ 1)
      (failure : simplifyPart (power inner (innerExponent * exponent)) = .error cause) :
      RaiseFails simplifyPart exponent (power inner innerExponent) cause

theorem raiseFails_of_raise_eq_error
    {simplifyPart : Expr → Except RewriteError Expr}
    {base : Expr}
    {exponent : Fraction}
    {cause : RewriteError}
    (failure : raise simplifyPart base exponent = .error cause) :
    RaiseFails simplifyPart exponent base cause := by
  unfold raise at failure
  by_cases isZero : exponent = 0
  · rw [if_pos isZero] at failure
    unfold checkZeroExponent at failure
    by_cases literalZero : base = 0
    · rw [if_pos literalZero] at failure
      cases failure
      exact literalZero ▸ .zeroToTheZero isZero
    · rw [if_neg literalZero] at failure
      by_cases varies : base.containsSymbols = true
      · rw [if_pos varies] at failure
        cases failure
        exact .indeterminate isZero varies
      · rw [if_neg varies] at failure
        cases failure
  · rw [if_neg isZero] at failure
    by_cases isOne : exponent = 1
    · rw [if_pos isOne] at failure
      cases failure
    · rw [if_neg isOne] at failure
      cases base with
      | number value =>
          cases eq_zeroReciprocal_of_numberPower_eq_error isZero failure
          exact .zeroReciprocal _
      | power inner innerExponent => exact .nested isZero isOne failure
      | symbol name => cases failure
      | sum operands => cases failure
      | product operands => cases failure

/-- The base of a regular factor that is no constant is not the literal zero. -/
theorem splitFactor_ne_zero
    {factor : Expr}
    (regular : Regular factor)
    (notNumber : factor.isNumber = false) :
    (splitFactor factor).1 ≠ 0 := by
  cases factor with
  | power base exponent =>
      rintro (rfl : base = 0)
      cases regular with
      | power _ _ baseRegular flat nonzero notOne irrational =>
          obtain ⟨positive, isNone⟩ := irrational 0 rfl
          exact Fraction.pow_zero_ne_none positive isNone
  | number value => cases notNumber
  | symbol name => exact nofun
  | sum operands => exact nofun
  | product operands => exact nofun

/-- Apart from the literal zero to the exponent zero, only a power that cannot be simplified
fails. -/
theorem of_collectedFactor_eq_error
    {simplifyPart : Expr → Except RewriteError Expr}
    {entry : Expr × Fraction}
    {cause : RewriteError}
    (baseNonzero : entry.1 ≠ 0)
    (failure : collectedFactor simplifyPart entry = .error cause) :
    entry.2 ≠ 0 ∧ entry.2 ≠ 1 ∧ simplifyPart (power entry.1 entry.2) = .error cause := by
  unfold collectedFactor at failure
  by_cases isZero : entry.2 = 0
  · rw [if_pos isZero, if_neg baseNonzero] at failure
    cases failure
  · rw [if_neg isZero] at failure
    by_cases isOne : entry.2 = 1
    · rw [if_pos isOne] at failure
      cases failure
    · rw [if_neg isOne] at failure
      rcases except_bind_eq_error failure with simplified | ⟨_, _, last⟩
      · exact ⟨isZero, isOne, simplified⟩
      · cases last

/-- Multiplying regular factors fails only where a collected power cannot be simplified:
that of the literal zero to the exponent zero never comes up. -/
theorem exists_of_collectProduct_eq_error
    {simplifyPart : Expr → Except RewriteError Expr}
    {operands : List Expr}
    {cause : RewriteError}
    (regular : ∀ operand ∈ operands, Regular operand)
    (failure : collectProduct simplifyPart operands = .error cause) :
    constantFactor operands ≠ 0 ∧
      ∃ entry ∈ factorTally operands, entry.2 ≠ 0 ∧ entry.2 ≠ 1 ∧
        simplifyPart (power entry.1 entry.2) = .error cause := by
  unfold collectProduct at failure
  dsimp only at failure
  by_cases isZero : constantFactor operands = 0
  · rw [if_pos isZero] at failure
    cases failure
  · rw [if_neg isZero] at failure
    refine ⟨isZero, ?_⟩
    rcases except_bind_eq_error failure with mapped | ⟨_, _, last⟩
    · obtain ⟨entry, inTally, failed⟩ := exists_of_mapM_eq_error mapped
      have baseNonzero : entry.1 ≠ 0 :=
        @forall_mem_factorTally (· ≠ 0) operands
          (fun operand member => splitFactor_ne_zero (regular operand member)) entry inTally
      obtain ⟨nonzero, notOne, simplified⟩ := of_collectedFactor_eq_error baseNonzero failed
      exact ⟨entry, inTally, nonzero, notOne, simplified⟩
    · cases last

/-! ## Exponents that are called for -/

/-- Results of simplification are spliced into factors that are regular and have no
exponent zero. -/
theorem forall_mem_factors_of_mapM_eq_ok
    {operands simplified : List Expr}
    (mapped : operands.mapM Expr.simplify = .ok simplified) :
    ∀ factor ∈ simplified.flatMap factors, Regular factor ∧ EveryExponent (· ≠ 0) factor := by
  have results : ∀ result ∈ simplified, Regular result ∧ EveryExponent (· ≠ 0) result := by
    intro result member
    obtain ⟨operand, _, found⟩ := exists_of_mem_mapM mapped member
    exact ⟨regular_of_simplify_eq_ok found, everyExponent_ne_zero_of_simplify_eq_ok found⟩
  intro factor member
  refine ⟨?_, isInherited_everyExponent.flatMap_factors (fun result member =>
    (results result member).2) factor member⟩
  obtain ⟨result, inSimplified, inFactors⟩ := List.mem_flatMap.mp member
  exact (results result inSimplified).1.factors factor inFactors

/-- What is called for is a direct part, or has no exponent zero. -/
theorem Calls.child_or_everyExponent_ne_zero
    {whole part : Expr}
    (calls : Calls Expr.simplify whole part) :
    part ∈ whole.children ∨ EveryExponent (· ≠ 0) part := by
  cases calls with
  | term member => exact .inl member
  | factor member => exact .inl member
  | base => exact .inl List.mem_cons_self
  | @collected operands simplified entry mapped nonzeroFactor member nonzero notOne =>
      have factors := forall_mem_factors_of_mapM_eq_ok mapped
      refine .inr (everyExponent_power_iff.mpr ⟨?_, nonzero⟩)
      exact forall_mem_factorTally (fun factor inFactors _ =>
        isInherited_everyExponent.splitFactor (factors factor inFactors).2) entry member
  | nested simplified nonzero notOne =>
      obtain ⟨inner, innerNonzero⟩ :=
        everyExponent_power_iff.mp (everyExponent_ne_zero_of_simplify_eq_ok simplified)
      exact .inr (everyExponent_power_iff.mpr ⟨inner, Fraction.mul_ne_zero innerNonzero nonzero⟩)

/-- What a call can fail for, the whole can fail for. -/
theorem Calls.canFailFor
    {whole part : Expr}
    {cause : RewriteError}
    (calls : Calls Expr.simplify whole part)
    (fails : CanFailFor part cause) :
    CanFailFor whole cause := by
  rcases calls.child_or_everyExponent_ne_zero with member | nonzero
  · exact fails.of_child member
  · cases fails.eq_zeroReciprocal nonzero
    exact .zeroReciprocal

end Simplify

namespace Expr

open Simplify

/-- Simplification fails only for the causes that the exponents leave. -/
theorem canFailFor_of_simplify_eq_error
    {expr : Expr}
    {cause : RewriteError}
    (failure : expr.simplify = .error cause) :
    CanFailFor expr cause := by
  induction expr using Simplify.calls_induction generalizing cause with
  | inherited whole hypothesis =>
      rw [simplify_eq_step] at failure
      cases whole with
      | number value => cases failure
      | symbol name => cases failure
      | sum operands =>
          rw [step] at failure
          rcases except_bind_eq_error failure with mapped | ⟨_, _, last⟩
          · obtain ⟨operand, member, failed⟩ := exists_of_mapM_eq_error mapped
            exact (Calls.term member).canFailFor (hypothesis operand (.term member) failed)
          · cases last
      | product operands =>
          rw [step] at failure
          rcases except_bind_eq_error failure with mapped | ⟨simplified, mapped, collecting⟩
          · obtain ⟨operand, member, failed⟩ := exists_of_mapM_eq_error mapped
            exact (Calls.factor member).canFailFor (hypothesis operand (.factor member) failed)
          · have regular := fun factor member =>
              (forall_mem_factors_of_mapM_eq_ok mapped factor member).1
            obtain ⟨nonzeroFactor, entry, inTally, nonzero, notOne, failed⟩ :=
              exists_of_collectProduct_eq_error regular collecting
            have calls := Calls.collected mapped nonzeroFactor inTally nonzero notOne
            exact calls.canFailFor (hypothesis _ calls failed)
      | power base exponent =>
          rw [step] at failure
          rcases except_bind_eq_error failure with failed | ⟨result, simplified, raising⟩
          · have calls := @Calls.base simplify base exponent
            exact calls.canFailFor (hypothesis base calls failed)
          · cases raiseFails_of_raise_eq_error raising with
            | zeroToTheZero isZero => exact isZero ▸ .zeroToTheZero .refl simplified
            | indeterminate isZero varies => exact isZero ▸ .indeterminate .refl simplified varies
            | zeroReciprocal => exact .zeroReciprocal
            | nested nonzero notOne failed =>
                have calls := Calls.nested simplified nonzero notOne
                exact calls.canFailFor (hypothesis _ calls failed)

/-- What simplification refuses is decided by the exponents. A well-formed expression is
simplified without meeting a guard, or it is refused for a power of zero with a negative
exponent, for the literal zero to the exponent zero, or for a base that could be zero. If no
exponent is zero, only the first cause is left. If all exponents are positive, the
expression is simplified. -/
theorem simplify_refusals {expr : Expr} (wellFormed : WellFormed expr) :
    Guarded.simplify expr = expr.simplify.mapError .rewrite ∧
      (∀ cause, expr.simplify = .error cause →
        cause = .arithmetic .zeroReciprocal ∨ cause = .zeroToTheZero ∨
          ∃ base, cause = .indeterminate base) ∧
      (EveryExponent (· ≠ 0) expr → ∀ cause, expr.simplify = .error cause →
        cause = .arithmetic .zeroReciprocal) ∧
      (EveryExponent (0 < ·.num) expr → ∃ result, expr.simplify = .ok result) := by
  refine ⟨(Guarded.agreesOnWellFormed_simplify expr wellFormed).same, ?_, ?_, ?_⟩
  · intro cause failure
    cases canFailFor_of_simplify_eq_error failure with
    | zeroReciprocal => exact .inl rfl
    | zeroToTheZero => exact .inr (.inl rfl)
    | indeterminate => exact .inr (.inr ⟨_, rfl⟩)
  · exact fun nonzero cause failure =>
      (canFailFor_of_simplify_eq_error failure).eq_zeroReciprocal nonzero
  · intro positive
    obtain ⟨result, success, _⟩ := PositiveExponents.exists_simplify_eq_ok positive
    exact ⟨result, success⟩

/-- The inverse of `x + -1 * x` beside two powers of `x` that cancel. -/
def inverseOfCancellingSum : Expr :=
  productOf [power (symbol .x) 2, power (symbol .x) (-2),
    power (sumOf [symbol .x, productOf [number (-1), symbol .x]]) (-1)]

/-- The square root of `x` beside the cube of that root. -/
def rootTimesCube : Expr :=
  productOf [power (symbol .x) half, power (power (symbol .x) half) (.ofInt 3)]

/-- No exponent of the first expression is zero and all of the second one are positive, so
that the first one fails for the reciprocal of zero and the second one is simplified. -/
theorem simplify_refusals_inverseOfCancellingSum :
    (WellFormed inverseOfCancellingSum ∧ EveryExponent (· ≠ 0) inverseOfCancellingSum ∧
        Guarded.simplify inverseOfCancellingSum =
          .error (.rewrite (.arithmetic .zeroReciprocal))) ∧
      WellFormed rootTimesCube ∧ EveryExponent (0 < ·.num) rootTimesCube ∧
        ∃ result, Guarded.simplify rootTimesCube = .ok result := by
  have firstWellFormed : WellFormed inverseOfCancellingSum := by decide +kernel
  have secondWellFormed : WellFormed rootTimesCube := by decide +kernel
  have nonzero : EveryExponent (· ≠ 0) inverseOfCancellingSum := by decide +kernel
  have positive : EveryExponent (0 < ·.num) rootTimesCube := by decide +kernel
  obtain ⟨firstGuarded, _, onlyReciprocal, _⟩ := simplify_refusals firstWellFormed
  obtain ⟨secondGuarded, _, _, simplified⟩ := simplify_refusals secondWellFormed
  obtain ⟨result, success⟩ := simplified positive
  have fails : inverseOfCancellingSum.simplify.isOk = false := by decide +kernel
  refine ⟨⟨firstWellFormed, nonzero, ?_⟩, secondWellFormed, positive, result, ?_⟩
  · cases outcome : inverseOfCancellingSum.simplify with
    | ok result =>
        rw [outcome] at fails
        cases fails
    | error cause =>
        rw [firstGuarded, outcome, onlyReciprocal nonzero cause outcome]
        rfl
  · rw [secondGuarded, success]
    rfl

end Expr
end ExactAlgebra
