import ExactAlgebra.Proofs.AlikeOutcomes
import ExactAlgebra.Proofs.Renaming.Basic
import ExactAlgebra.Proofs.Simplify.Calls
import ExactAlgebra.Proofs.Simplify.Factors
import ExactAlgebra.Proofs.Simplify.Idempotence
import ExactAlgebra.Proofs.Simplify.Terms
import ExactAlgebra.Proofs.WellFormed.Rewriting

/-!
# Simplification and renaming

Simplifying a renamed expression is a second run beside that of the expression itself. The
operands come in another order everywhere, so constants are folded in another order, terms
and bases come up in another order in the tallies, and of several failures another one may
be met first. Constants add up and multiply to the same all the same, the tallies have the
same entries under renamed keys, and what is built from them is arranged anew. So the two
runs end alike, by induction on what is called for.
-/

namespace ExactAlgebra
namespace Simplify

open ExactAlgebra.Expr

/-- The left expression is the right one with its variables renamed. -/
def IsRenamed (relabel : Symbol → Symbol) (left right : Expr) : Prop :=
  left = right.rename relabel

section Rename

variable {relabel : Symbol → Symbol} {lefts rights : List Expr}

/-! ## Constants -/

theorem filterMap_value?_perm_rename (perm : lefts.Perm (rights.map (rename relabel))) :
    (lefts.filterMap value?).Perm (rights.filterMap value?) := by
  have same : (rights.map (rename relabel)).filterMap value? = rights.filterMap value? := by
    rw [List.filterMap_map]
    exact List.filterMap_congr fun operand _ => value?_rename relabel operand
  exact same ▸ perm.filterMap value?

theorem constantTerm_rename (perm : lefts.Perm (rights.map (rename relabel))) :
    constantTerm lefts = constantTerm rights := by
  apply Fraction.toRat_injective
  rw [constantTerm, constantTerm, toRat_foldl_add, toRat_foldl_add,
    ((filterMap_value?_perm_rename perm).map _).sum_eq]

theorem constantFactor_rename (perm : lefts.Perm (rights.map (rename relabel))) :
    constantFactor lefts = constantFactor rights := by
  apply Fraction.toRat_injective
  rw [constantFactor, constantFactor, toRat_foldl_mul, toRat_foldl_mul,
    ((filterMap_value?_perm_rename perm).map _).prod_eq]

theorem filter_not_isNumber_perm_rename (perm : lefts.Perm (rights.map (rename relabel))) :
    (lefts.filter (!·.isNumber)).Perm ((rights.filter (!·.isNumber)).map (rename relabel)) :=
  filter_perm_map perm fun operand => by rw [isNumber_rename]

/-! ## Spliced operands -/

/-- The terms of renamed operands are the renamed terms. -/
theorem flatMap_summands_perm_rename (perm : lefts.Perm (rights.map (rename relabel))) :
    (lefts.flatMap summands).Perm ((rights.flatMap summands).map (rename relabel)) := by
  refine (perm.flatMap_right summands).trans ?_
  rw [List.flatMap_map, List.map_flatMap]
  exact .flatMap_left _ fun operand _ => summands_rename_perm relabel operand

/-- The factors of renamed operands are the renamed factors. -/
theorem flatMap_factors_perm_rename (perm : lefts.Perm (rights.map (rename relabel))) :
    (lefts.flatMap factors).Perm ((rights.flatMap factors).map (rename relabel)) := by
  refine (perm.flatMap_right factors).trans ?_
  rw [List.flatMap_map, List.map_flatMap]
  exact .flatMap_left _ fun operand _ => factors_rename_perm relabel operand

/-! ## Tallies -/

/-- The tallies of operands and of renamed operands have the same entries, under renamed
keys, if the operands are split into keys and amounts in the same way. -/
theorem tally_perm_rename
    {split : Expr → Expr × Fraction}
    (injective : Function.Injective relabel)
    (perm : lefts.Perm (rights.map (rename relabel)))
    (commutes : ∀ operand ∈ rights,
      split (operand.rename relabel) = Prod.map (rename relabel) id (split operand))
    (keysWellFormed : ∀ operand ∈ rights, WellFormed (split operand).1) :
    (Tally.ofEntries ((lefts.filter (!·.isNumber)).map split)).Perm
      ((Tally.ofEntries ((rights.filter (!·.isNumber)).map split)).map
        (Prod.map (rename relabel) id)) := by
  have entries : ((rights.filter (!·.isNumber)).map (rename relabel)).map split =
      ((rights.filter (!·.isNumber)).map split).map (Prod.map (rename relabel) id) := by
    rw [List.map_map, List.map_map]
    exact List.map_congr_left fun operand member => commutes operand (List.mem_filter.mp member).1
  have keys : ∀ key ∈ Tally.keys ((rights.filter (!·.isNumber)).map split), WellFormed key := by
    intro key member
    obtain ⟨entry, inEntries, rfl⟩ := List.mem_map.mp member
    obtain ⟨operand, inOperands, rfl⟩ := List.mem_map.mp inEntries
    exact keysWellFormed operand (List.mem_filter.mp inOperands).1
  rw [← Tally.ofEntries_map fun first inFirst second inSecond =>
    (keys first inFirst).eq_of_rename_eq injective (keys second inSecond), ← entries]
  exact Tally.ofEntries_perm ((filter_not_isNumber_perm_rename perm).map split)

/-! ## Sums -/

theorem splitTerm_rename_of_noConstants
    {term : Expr}
    (noConstants : ∀ factor ∈ term.factors, factor.isNumber = false) :
    splitTerm (term.rename relabel) = Prod.map (rename relabel) id (splitTerm term) := by
  have renamedNoConstants : ∀ factor ∈ (term.rename relabel).factors, factor.isNumber = false := by
    intro factor member
    obtain ⟨source, inFactors, rfl⟩ :=
      List.mem_map.mp ((factors_rename_perm relabel term).mem_iff.mp member)
    rw [isNumber_rename]
    exact noConstants source inFactors
  rw [splitTerm_of_noConstants noConstants, splitTerm_of_noConstants renamedNoConstants]
  rfl

/-- A constant in front of ordered operands stays there. -/
theorem arrange_rename_number_cons
    {value : Fraction}
    {operands : List Expr}
    (inFront : ∀ operand ∈ operands, le (number value) operand) :
    arrange ((number value :: operands).map (rename relabel)) =
      number value :: arrange (operands.map (rename relabel)) := by
  have stays : ∀ operand ∈ operands.map (rename relabel), le (number value) operand := by
    refine List.forall_mem_map.mpr fun operand member => ?_
    cases constant : operand.isNumber with
    | true =>
        obtain ⟨other, rfl⟩ := exists_eq_number constant
        rw [rename_number]
        exact inFront (number other) member
    | false => exact (le_number_iff (by rwa [isNumber_rename]) value).1
  rw [List.map_cons, rename_number]
  refine arrange_eq_of_perm ((perm_arrange _).symm.cons _) (List.pairwise_cons.mpr ⟨?_, ?_⟩)
  · exact fun operand member => stays operand ((perm_arrange _).mem_iff.mp member)
  · exact pairwise_arrange _

/-- A term is renamed apart from its coefficient: the coefficient stays in front, and no
other factor comes there. -/
theorem splitTerm_rename {term : Expr} (wellFormed : WellFormed term) :
    splitTerm (term.rename relabel) = Prod.map (rename relabel) id (splitTerm term) := by
  cases wellFormed with
  | number value => rw [rename_number]; exact congrArg (·, 1) (rename_number relabel value).symm
  | product operands several ordered parts =>
      cases operands with
      | nil => simp at several
      | cons head tail =>
          cases constant : head.isNumber with
          | true =>
              obtain ⟨value, rfl⟩ := exists_eq_number constant
              rw [rename_product, productOf,
                arrange_rename_number_cons (List.pairwise_cons.mp ordered).1]
              refine Prod.ext ?_ rfl
              exact (productOfFactors_perm (perm_arrange _)).trans
                (rename_productOfFactors relabel tail).symm
          | false => exact splitTerm_rename_of_noConstants (noConstants_of_head ordered constant)
  | _ => exact splitTerm_rename_of_noConstants (List.forall_mem_singleton.mpr rfl)

theorem scale_rename (coefficient : Fraction) (term : Expr) :
    scale coefficient (term.rename relabel) = (scale coefficient term).rename relabel := by
  have pair (other : Expr) :
      (productOf [number coefficient, other]).rename relabel =
        productOf [number coefficient, other.rename relabel] := by
    rw [rename_productOf, List.map_cons, List.map_singleton, rename_number]
  cases term with
  | product operands =>
      rw [rename_product, scale, rename_productOf, List.map_append, List.map_singleton,
        rename_number]
      exact productOf_perm ((perm_arrange _).append_right _)
  | _ => exact (pair _).symm

theorem collectedTerm?_rename (entry : Expr × Fraction) :
    collectedTerm? (Prod.map (rename relabel) id entry) =
      (collectedTerm? entry).map (rename relabel) := by
  obtain ⟨term, coefficient⟩ := entry
  rw [Prod.map_apply, id_eq, collectedTerm?, collectedTerm?]
  by_cases isZero : coefficient = 0
  · rw [if_pos isZero, if_pos isZero]
    rfl
  · rw [if_neg isZero, if_neg isZero]
    by_cases isOne : coefficient = 1
    · rw [if_pos isOne, if_pos isOne]
      rfl
    · rw [if_neg isOne, if_neg isOne]
      exact congrArg some (scale_rename coefficient term)

theorem collectSum_rename
    (injective : Function.Injective relabel)
    (perm : lefts.Perm (rights.map (rename relabel)))
    (wellFormed : ∀ operand ∈ rights, WellFormed operand) :
    collectSum lefts = (collectSum rights).rename relabel := by
  have tally : (termTally lefts).Perm ((termTally rights).map (Prod.map (rename relabel) id)) :=
    tally_perm_rename injective perm
      (fun operand member => splitTerm_rename (wellFormed operand member))
      fun operand member =>
        (Checked.agrees_splitTerm (wellFormed operand member)).meets _ rfl
  have terms : ((termTally lefts).filterMap collectedTerm?).Perm
      (((termTally rights).filterMap collectedTerm?).map (rename relabel)) := by
    have same := tally.filterMap collectedTerm?
    rw [List.filterMap_map] at same
    rw [List.map_filterMap]
    exact List.filterMap_congr (fun entry _ => collectedTerm?_rename entry) ▸ same
  unfold collectSum
  dsimp only
  rw [constantTerm_rename perm, rename_sumOfTerms]
  by_cases isZero : constantTerm rights = 0
  · rw [if_pos isZero, if_pos isZero]
    exact sumOfTerms_perm terms
  · rw [if_neg isZero, if_neg isZero, List.map_cons, rename_number]
    exact sumOfTerms_perm (terms.cons _)

/-! ## Products -/

theorem splitFactor_rename (factor : Expr) :
    splitFactor (factor.rename relabel) = Prod.map (rename relabel) id (splitFactor factor) := by
  cases factor with
  | number value => rw [rename_number]; exact congrArg (·, 1) (rename_number relabel value).symm
  | symbol name => exact congrArg (·, 1) (rename_symbol relabel name)
  | sum operands => rw [rename_sum]; exact congrArg (·, 1) (rename_sum relabel operands).symm
  | product operands =>
      rw [rename_product]; exact congrArg (·, 1) (rename_product relabel operands).symm
  | power base exponent => rw [rename_power]; rfl

theorem assembleProduct_rename
    (coefficient : Fraction)
    (perm : lefts.Perm (rights.map (rename relabel))) :
    assembleProduct coefficient lefts = (assembleProduct coefficient rights).rename relabel := by
  unfold assembleProduct
  by_cases isZero : coefficient = 0
  · rw [if_pos isZero, if_pos isZero]
    exact (rename_number relabel 0).symm
  · rw [if_neg isZero, if_neg isZero]
    by_cases isOne : coefficient = 1
    · rw [if_pos isOne, if_pos isOne, rename_productOfFactors]
      exact productOfFactors_perm perm
    · rw [if_neg isOne, if_neg isOne, rename_productOfFactors, List.map_append,
        List.map_singleton, rename_number]
      exact productOfFactors_perm (perm.append_right _)

theorem endAlike_collectedFactor
    {entry : Expr × Fraction}
    (called : entry.2 ≠ 0 → entry.2 ≠ 1 →
      EndAlike (IsRenamed relabel) ((power entry.1 entry.2).rename relabel).simplify
        (power entry.1 entry.2).simplify) :
    EndAlike (fun left right => left = right.map (rename relabel))
      (collectedFactor Expr.simplify (Prod.map (rename relabel) id entry))
      (collectedFactor Expr.simplify entry) := by
  obtain ⟨base, exponent⟩ := entry
  rw [Prod.map_apply, id_eq, collectedFactor, collectedFactor]
  by_cases isZero : exponent = 0
  · rw [if_pos isZero, if_pos isZero]
    by_cases baseZero : base = 0
    · rw [if_pos baseZero, if_pos ((rename_eq_zero_iff relabel).mpr baseZero)]
      exact .error _ _
    · rw [if_neg baseZero, if_neg (mt (rename_eq_zero_iff relabel).mp baseZero)]
      exact .ok rfl
  · rw [if_neg isZero, if_neg isZero]
    by_cases isOne : exponent = 1
    · rw [if_pos isOne, if_pos isOne]
      exact .ok rfl
    · rw [if_neg isOne, if_neg isOne]
      have power := called isZero isOne
      rw [rename_power] at power
      exact power.bind fun _ _ _ isRenamed => .ok (congrArg ([·]) isRenamed)

theorem endAlike_collectProduct
    (injective : Function.Injective relabel)
    (perm : lefts.Perm (rights.map (rename relabel)))
    (wellFormed : ∀ operand ∈ rights, WellFormed operand)
    (called : constantFactor rights ≠ 0 → ∀ entry ∈ factorTally rights,
      entry.2 ≠ 0 → entry.2 ≠ 1 →
        EndAlike (IsRenamed relabel) ((power entry.1 entry.2).rename relabel).simplify
          (power entry.1 entry.2).simplify) :
    EndAlike (IsRenamed relabel)
      (collectProduct Expr.simplify lefts) (collectProduct Expr.simplify rights) := by
  have tally : (factorTally lefts).Perm
      ((factorTally rights).map (Prod.map (rename relabel) id)) :=
    tally_perm_rename injective perm (fun operand _ => splitFactor_rename operand)
      fun operand member => Checked.wellFormed_splitFactor (wellFormed operand member)
  unfold collectProduct
  dsimp only
  rw [constantFactor_rename perm]
  by_cases isZero : constantFactor rights = 0
  · rw [if_pos isZero, if_pos isZero]
    exact .ok (rename_number relabel 0).symm
  · rw [if_neg isZero, if_neg isZero]
    refine (EndAlike.mapM_image tally fun entry member =>
      endAlike_collectedFactor (called isZero entry member)).bind fun left right _ same => .ok ?_
    have factors : left.flatten.Perm (right.flatten.map (rename relabel)) := by
      rw [List.map_flatten]
      exact same.flatten
    rw [constantFactor_rename factors]
    exact assembleProduct_rename _ (filter_not_isNumber_perm_rename factors)

/-! ## Powers -/

theorem endAlike_checkZeroExponent (base : Expr) :
    EndAlike (fun _ _ => True) (checkZeroExponent (base.rename relabel))
      (checkZeroExponent base) := by
  unfold checkZeroExponent
  rw [containsSymbols_rename]
  by_cases isZero : base = 0
  · rw [if_pos isZero, if_pos ((rename_eq_zero_iff relabel).mpr isZero)]
    exact .error _ _
  · rw [if_neg isZero, if_neg (mt (rename_eq_zero_iff relabel).mp isZero)]
    split
    · exact .error _ _
    · exact .ok trivial

/-- Powers of constants have no variables. -/
theorem rename_eq_self_of_numberPower_eq_ok
    {value exponent : Fraction}
    {result : Expr}
    (success : numberPower value exponent = .ok result) :
    result.rename relabel = result := by
  rcases numberPower_cases success with ⟨answer, rfl⟩ | ⟨base, kept, rfl, _⟩
  · exact rename_number relabel answer
  · rw [rename_power, rename_number]

theorem endAlike_raise
    {base : Expr}
    {exponent : Fraction}
    (nested : ∀ inner innerExponent, base = power inner innerExponent →
      exponent ≠ 0 → exponent ≠ 1 →
        EndAlike (IsRenamed relabel)
          ((power inner (innerExponent * exponent)).rename relabel).simplify
          (power inner (innerExponent * exponent)).simplify) :
    EndAlike (IsRenamed relabel) (raise Expr.simplify (base.rename relabel) exponent)
      (raise Expr.simplify base exponent) := by
  unfold raise
  by_cases isZero : exponent = 0
  · rw [if_pos isZero, if_pos isZero]
    exact (endAlike_checkZeroExponent base).bind fun _ _ _ _ => .ok (rename_number relabel 1).symm
  · rw [if_neg isZero, if_neg isZero]
    by_cases isOne : exponent = 1
    · rw [if_pos isOne, if_pos isOne]
      exact .ok rfl
    · rw [if_neg isOne, if_neg isOne]
      cases base with
      | number value =>
          rw [rename_number]
          exact .refl fun _ success => (rename_eq_self_of_numberPower_eq_ok success).symm
      | power inner innerExponent =>
          have called := nested inner innerExponent rfl isZero isOne
          rwa [rename_power] at called ⊢
      | symbol name => exact .ok (rename_power relabel _ _).symm
      | sum operands =>
          rw [rename_sum]
          exact .ok (by rw [IsRenamed, rename_power, rename_sum, sumOf])
      | product operands =>
          rw [rename_product]
          exact .ok (by rw [IsRenamed, rename_power, rename_product, productOf])

end Rename

/-! ## The whole recursion -/

/-- The spliced results of simplification are well-formed. -/
theorem wellFormed_of_mem_mapM
    {operands simplified : List Expr}
    (wellFormed : ∀ operand ∈ operands, WellFormed operand)
    (mapped : operands.mapM Expr.simplify = .ok simplified) :
    ∀ result ∈ simplified, WellFormed result := by
  intro result member
  obtain ⟨operand, inOperands, success⟩ := exists_of_mem_mapM mapped member
  exact (wellFormed operand inOperands).of_simplify_eq_ok success

/-- The spliced results are well-formed factors. -/
theorem wellFormed_factors_of_mapM_eq_ok
    {operands simplified : List Expr}
    (wellFormed : ∀ operand ∈ operands, WellFormed operand)
    (mapped : operands.mapM Expr.simplify = .ok simplified) :
    ∀ factor ∈ simplified.flatMap factors, WellFormed factor := by
  intro factor member
  obtain ⟨result, inSimplified, inFactors⟩ := List.mem_flatMap.mp member
  have result := wellFormed_of_mem_mapM wellFormed mapped result inSimplified
  exact Checked.wellFormed_factors result factor inFactors

/-- What a well-formed expression calls for is well-formed. -/
theorem Calls.wellFormed
    {whole part : Expr}
    (calls : Calls Expr.simplify whole part)
    (wellFormed : WellFormed whole) :
    WellFormed part := by
  cases calls with
  | term member =>
      cases wellFormed with
      | sum _ _ _ parts => exact parts _ member
  | factor member =>
      cases wellFormed with
      | product _ _ _ parts => exact parts _ member
  | base =>
      cases wellFormed with
      | power _ _ inner => exact inner
  | @collected operands simplified entry mapped nonzeroFactor member nonzero notOne =>
      cases wellFormed with
      | product _ _ _ parts =>
          have factors := wellFormed_factors_of_mapM_eq_ok parts mapped
          refine .power _ _ (forall_mem_factorTally (fun factor inFactors _ => ?_) entry member)
          exact Checked.wellFormed_splitFactor (factors factor inFactors)
  | nested simplified nonzero notOne =>
      cases wellFormed with
      | power _ _ inner =>
          cases inner.of_simplify_eq_ok simplified with
          | power _ _ innerWellFormed => exact .power _ _ innerWellFormed

end Simplify

namespace Expr

open Simplify

/-- Simplifying a renamed expression ends as simplifying the expression does, with the
result renamed. -/
theorem endAlike_simplify_rename
    {relabel : Symbol → Symbol}
    (injective : Function.Injective relabel)
    {expr : Expr}
    (wellFormed : WellFormed expr) :
    EndAlike (IsRenamed relabel) (expr.rename relabel).simplify expr.simplify := by
  induction expr using Simplify.calls_induction with
  | inherited whole hypothesis =>
      have called (part : Expr) (calls : Calls simplify whole part) :=
        hypothesis part calls (calls.wellFormed wellFormed)
      rw [simplify_eq_step whole, simplify_eq_step (whole.rename relabel)]
      cases wellFormed with
      | number value => rw [rename_number]; exact .ok (rename_number relabel value).symm
      | symbol name => exact .ok (rename_symbol relabel name).symm
      | sum operands several ordered parts =>
          rw [rename_sum, sumOf, step, step]
          refine (EndAlike.mapM_image (perm_arrange _) fun operand member =>
            called operand (.term member)).bind fun left right mapped same => .ok ?_
          refine collectSum_rename injective (flatMap_summands_perm_rename same) ?_
          exact (Checked.wellFormed_flatMap_summands (wellFormed_of_mem_mapM parts mapped)).2
      | product operands several ordered parts =>
          rw [rename_product, productOf, step, step]
          refine (EndAlike.mapM_image (perm_arrange _) fun operand member =>
            called operand (.factor member)).bind fun left right mapped same => ?_
          refine endAlike_collectProduct injective (flatMap_factors_perm_rename same)
            (wellFormed_factors_of_mapM_eq_ok parts mapped) ?_
          intro nonzeroFactor entry member nonzero notOne
          exact called _ (.collected mapped nonzeroFactor member nonzero notOne)
      | power base exponent inner =>
          rw [rename_power, step, step]
          refine (called base (.base base exponent)).bind fun left right simplified same => ?_
          rw [same]
          refine endAlike_raise fun inside insideExponent isPower nonzero notOne => ?_
          exact called _ (.nested (isPower ▸ simplified) nonzero notOne)

end Expr
end ExactAlgebra
