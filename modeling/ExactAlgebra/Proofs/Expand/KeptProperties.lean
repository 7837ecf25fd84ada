import ExactAlgebra.Proofs.CanonicalOrder
import ExactAlgebra.Rewrite.Expand

/-!
# Properties that expansion keeps

Expansion builds its results from terms: it multiplies terms of different operands, and
chosen terms of one operand with each other. So two kinds of properties go through it. One
is that of whole expressions which sums and products have exactly when their operands do.
The other one is that of terms which products of such terms have again.
-/

namespace ExactAlgebra
namespace Expand

open ExactAlgebra.Expr

/-- What holds of one, and of two expressions multiplied when it holds of both, holds of
any number of expressions multiplied when it holds of all. -/
theorem distributeAll_induction
    {property : Expr → Prop}
    (one : property 1)
    (two : ∀ left right, property left → property right → property (distribute left right))
    {operands : List Expr}
    (each : ∀ operand ∈ operands, property operand) :
    property (distributeAll operands) := by
  cases operands with
  | nil => exact one
  | cons first others =>
      rw [distributeAll]
      induction others generalizing first with
      | nil => exact each first List.mem_cons_self
      | cons second others hypothesis =>
          obtain ⟨here, there⟩ := List.forall_mem_cons.mp each
          obtain ⟨next, rest⟩ := List.forall_mem_cons.mp there
          exact hypothesis _ (List.forall_mem_cons.mpr ⟨two first second here next, rest⟩)

theorem mem_of_mem_selections
    {choices : List α}
    {count : Nat}
    {selection : List α}
    (selected : selection ∈ selections choices count) :
    ∀ choice ∈ selection, choice ∈ choices := by
  induction count generalizing selection with
  | zero =>
      cases List.mem_singleton.mp selected
      exact nofun
  | succ count hypothesis =>
      obtain ⟨first, inChoices, rest⟩ := List.mem_flatMap.mp selected
      obtain ⟨others, othersSelected, rfl⟩ := List.mem_map.mp rest
      exact List.forall_mem_cons.mpr ⟨inChoices, hypothesis othersSelected⟩

theorem selections_singleton (choice : α) (count : Nat) :
    selections [choice] count = [List.replicate count choice] := by
  induction count with
  | zero => rfl
  | succ count hypothesis =>
      rw [selections, hypothesis]
      rfl

/-- An expression that is no sum has itself as its only term, so there is one choice. -/
theorem repeated_eq (count : Nat) (base : Expr) :
    repeated count base =
      sumOfTerms ((selections base.summands count).map productOfFactors) := by
  cases base with
  | sum operands => rfl
  | _ =>
      dsimp only [summands]
      rw [selections_singleton]
      rfl

end Expand

namespace Expr

/-! ## Inherited properties -/

/-- A property that constants have, that sums and products have exactly when all of their
operands do, and that bases have when powers do. -/
structure IsInherited (property : Expr → Prop) : Prop where
  number (value : Fraction) : property (number value)
  sum_iff (operands : List Expr) :
    property (sum operands) ↔ ∀ operand ∈ operands, property operand
  product_iff (operands : List Expr) :
    property (product operands) ↔ ∀ operand ∈ operands, property operand
  base {base : Expr} {exponent : Fraction} (holds : property (power base exponent)) :
    property base

namespace IsInherited

variable {property : Expr → Prop} (inherited : IsInherited property)
include inherited

theorem sumOf {operands : List Expr} (each : ∀ operand ∈ operands, property operand) :
    property (sumOf operands) :=
  (inherited.sum_iff _).mpr fun operand member =>
    each operand ((perm_arrange operands).mem_iff.mp member)

theorem productOf {operands : List Expr} (each : ∀ operand ∈ operands, property operand) :
    property (productOf operands) :=
  (inherited.product_iff _).mpr fun operand member =>
    each operand ((perm_arrange operands).mem_iff.mp member)

theorem sumOfTerms {terms : List Expr} (each : ∀ term ∈ terms, property term) :
    property (sumOfTerms terms) := by
  match terms with
  | [] => exact inherited.number 0
  | [term] => exact each term List.mem_cons_self
  | first :: second :: others => exact inherited.sumOf each

theorem productOfFactors {factors : List Expr} (each : ∀ factor ∈ factors, property factor) :
    property (productOfFactors factors) := by
  match factors with
  | [] => exact inherited.number 1
  | [factor] => exact each factor List.mem_cons_self
  | first :: second :: others => exact inherited.productOf each

theorem flatMap_summands
    {operands : List Expr}
    (each : ∀ operand ∈ operands, property operand) :
    ∀ term ∈ operands.flatMap summands, property term := by
  intro term member
  obtain ⟨operand, inOperands, inSummands⟩ := List.mem_flatMap.mp member
  have holds := each operand inOperands
  cases operand with
  | sum terms => exact (inherited.sum_iff terms).mp holds term inSummands
  | _ => exact List.mem_singleton.mp inSummands ▸ holds

theorem flatMap_factors
    {operands : List Expr}
    (each : ∀ operand ∈ operands, property operand) :
    ∀ factor ∈ operands.flatMap factors, property factor := by
  intro factor member
  obtain ⟨operand, inOperands, inFactors⟩ := List.mem_flatMap.mp member
  have holds := each operand inOperands
  cases operand with
  | product parts => exact (inherited.product_iff parts).mp holds factor inFactors
  | _ => exact List.mem_singleton.mp inFactors ▸ holds

theorem summands {expr : Expr} (holds : property expr) : ∀ term ∈ expr.summands, property term := by
  simpa using inherited.flatMap_summands (List.forall_mem_singleton.mpr holds)

/-! ### Expansion -/

theorem distribute {left right : Expr} (leftHolds : property left) (rightHolds : property right) :
    property (Expand.distribute left right) := by
  refine inherited.sumOfTerms fun term member => ?_
  obtain ⟨leftTerm, inLeft, inProducts⟩ := List.mem_flatMap.mp member
  obtain ⟨rightTerm, inRight, rfl⟩ := List.mem_map.mp inProducts
  refine inherited.productOf (List.forall_mem_cons.mpr ⟨?_, List.forall_mem_singleton.mpr ?_⟩)
  · exact inherited.summands leftHolds leftTerm inLeft
  · exact inherited.summands rightHolds rightTerm inRight

theorem distributeAll {operands : List Expr} (each : ∀ operand ∈ operands, property operand) :
    property (Expand.distributeAll operands) :=
  Expand.distributeAll_induction (inherited.number 1) (fun _ _ => inherited.distribute) each

theorem repeated {base : Expr} (holds : property base) (count : Nat) :
    property (Expand.repeated count base) := by
  rw [Expand.repeated_eq]
  refine inherited.sumOfTerms fun term member => ?_
  obtain ⟨choices, selected, rfl⟩ := List.mem_map.mp member
  refine inherited.productOfFactors fun choice inChoices => ?_
  exact inherited.summands holds choice (Expand.mem_of_mem_selections selected choice inChoices)

end IsInherited

/-! ## Properties of terms -/

/-- The terms of a sum that is built are those that are given, or zero. -/
theorem forall_mem_summands_sumOfTerms
    {property : Expr → Prop}
    {terms : List Expr}
    (zero : property 0)
    (each : ∀ term ∈ terms, property term)
    (notSum : ∀ term ∈ terms, term.kind ≠ .sum) :
    ∀ term ∈ (sumOfTerms terms).summands, property term := by
  match terms with
  | [] => exact List.forall_mem_singleton.mpr zero
  | [term] =>
      rw [sumOfTerms, summands_eq_singleton (notSum term List.mem_cons_self)]
      exact each
  | first :: second :: others =>
      exact fun term member => each term ((perm_arrange _).mem_iff.mp member)

/-- A property that constants and products of expressions with the property have, and no
sums. -/
structure IsTermProperty (property : Expr → Prop) : Prop where
  number (value : Fraction) : property (number value)
  product {operands : List Expr} (each : ∀ operand ∈ operands, property operand) :
    property (product operands)
  notSum {expr : Expr} (holds : property expr) : expr.kind ≠ .sum

namespace IsTermProperty

variable {property : Expr → Prop} (ofTerms : IsTermProperty property)
include ofTerms

theorem productOf {factors : List Expr} (each : ∀ factor ∈ factors, property factor) :
    property (productOf factors) :=
  ofTerms.product fun factor member => each factor ((perm_arrange factors).mem_iff.mp member)

theorem productOfFactors {factors : List Expr} (each : ∀ factor ∈ factors, property factor) :
    property (productOfFactors factors) := by
  match factors with
  | [] => exact ofTerms.number 1
  | [factor] => exact each factor List.mem_cons_self
  | first :: second :: others => exact ofTerms.productOf each

/-- An expression with the property is its only term. -/
theorem alone {expr : Expr} (holds : property expr) : ∀ term ∈ expr.summands, property term := by
  rw [summands_eq_singleton (ofTerms.notSum holds)]
  exact List.forall_mem_singleton.mpr holds

theorem sumOfTerms {terms : List Expr} (each : ∀ term ∈ terms, property term) :
    ∀ term ∈ (sumOfTerms terms).summands, property term :=
  forall_mem_summands_sumOfTerms (ofTerms.number 0) each fun term member =>
    ofTerms.notSum (each term member)

theorem distribute
    {left right : Expr}
    (leftHolds : ∀ term ∈ left.summands, property term)
    (rightHolds : ∀ term ∈ right.summands, property term) :
    ∀ term ∈ (Expand.distribute left right).summands, property term := by
  refine ofTerms.sumOfTerms fun term member => ?_
  obtain ⟨leftTerm, inLeft, inProducts⟩ := List.mem_flatMap.mp member
  obtain ⟨rightTerm, inRight, rfl⟩ := List.mem_map.mp inProducts
  refine ofTerms.productOf (List.forall_mem_cons.mpr ⟨leftHolds leftTerm inLeft, ?_⟩)
  exact List.forall_mem_singleton.mpr (rightHolds rightTerm inRight)

theorem distributeAll
    {operands : List Expr}
    (each : ∀ operand ∈ operands, ∀ term ∈ operand.summands, property term) :
    ∀ term ∈ (Expand.distributeAll operands).summands, property term :=
  @Expand.distributeAll_induction (fun expr => ∀ term ∈ expr.summands, property term)
    (ofTerms.alone (ofTerms.number 1)) (fun _ _ => ofTerms.distribute) operands each

theorem repeated
    {base : Expr}
    (holds : ∀ term ∈ base.summands, property term)
    (count : Nat) :
    ∀ term ∈ (Expand.repeated count base).summands, property term := by
  rw [Expand.repeated_eq]
  refine ofTerms.sumOfTerms fun term member => ?_
  obtain ⟨choices, selected, rfl⟩ := List.mem_map.mp member
  refine ofTerms.productOfFactors fun choice inChoices => ?_
  exact holds choice (Expand.mem_of_mem_selections selected choice inChoices)

end IsTermProperty

end Expr
end ExactAlgebra
