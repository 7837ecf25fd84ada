import ExactAlgebra.Proofs.Simplify.Collected

/-!
# Collecting the terms of a result again

Adding zero to an expression makes simplification collect its terms once more. There are
two reasons why that may change a result of simplification. A term may be a coefficient
with a product that was left nested; collecting multiplies the coefficient into it, which
saves a node. Or two terms may be the same apart from their coefficients; collecting adds
them up, which leaves fewer terms. A result without such terms is kept, so the weight and
the number of the collected terms tell exactly which results are.
-/

namespace ExactAlgebra

@[simp] theorem totalSize_map (size : β → Nat) (image : α → β) (members : List α) :
    totalSize size (members.map image) = totalSize (fun member => size (image member)) members := by
  induction members with
  | nil => rfl
  | cons member members hypothesis => simp only [List.map_cons, totalSize, hypothesis]

namespace Simplify

open ExactAlgebra.Expr

/-! ## One term -/

/-- A coefficient with a product that is nested beside it. -/
def IsScaledProduct (term : Expr) : Prop :=
  ∃ coefficient factors, term = product [number coefficient, product factors]

/-- A coefficient joins its factors again, unless they are a single product. -/
theorem scale_productOfFactors
    {coefficient : Fraction}
    {rest : List Expr}
    (nonempty : rest ≠ [])
    (ordered : (number coefficient :: rest).Pairwise (le · ·))
    (unscaled : ¬IsScaledProduct (product (number coefficient :: rest))) :
    scale coefficient (productOfFactors rest) = product (number coefficient :: rest) := by
  have own : (productOfFactors rest).factors = rest := by
    match rest, nonempty with
    | [factor], _ =>
        cases factor with
        | product operands => exact absurd ⟨coefficient, operands, rfl⟩ unscaled
        | _ => rfl
    | first :: second :: others, _ =>
        have several : 2 ≤ (first :: second :: others).length := by simp
        have restOrdered := (List.pairwise_cons.mp ordered).2
        rw [productOfFactors_eq_product (List.Perm.refl _) several restOrdered]
        rfl
  rw [scale_eq_product (by rwa [own]), own]

/-- Any other term is given back as it is. -/
theorem collectedTerm?_splitTerm
    {term : Expr}
    (wellFormed : WellFormed term)
    (regular : Regular term)
    (unscaled : ¬IsScaledProduct term) :
    collectedTerm? (splitTerm term) = some term := by
  cases wellFormed with
  | product operands several ordered =>
      match operands, several with
      | head :: rest, several =>
          cases constant : head.isNumber with
          | false =>
              have noConstants : ∀ factor ∈ (product (head :: rest)).factors,
                  factor.isNumber = false :=
                noConstants_of_head ordered constant
              rw [splitTerm_of_noConstants noConstants]
              rfl
          | true =>
              obtain ⟨coefficient, rfl⟩ := exists_eq_number constant
              cases regular with
              | product _ _ nonzero notOne =>
                  have coefficientNonzero : coefficient ≠ 0 := by
                    rintro rfl
                    exact nonzero List.mem_cons_self
                  have coefficientNotOne : coefficient ≠ 1 := by
                    rintro rfl
                    exact notOne List.mem_cons_self
                  have nonempty : rest ≠ [] := by
                    rintro rfl
                    simp at several
                  rw [splitTerm, collectedTerm?, if_neg coefficientNonzero,
                    if_neg coefficientNotOne, scale_productOfFactors nonempty ordered unscaled]
  | _ => rfl

/-- Multiplying the coefficient into the nested product saves a node. -/
theorem termCost_splitTerm_lt {term : Expr} (scaled : IsScaledProduct term) :
    termCost (splitTerm term) < term.weight := by
  obtain ⟨coefficient, factors, rfl⟩ := scaled
  simp [splitTerm, productOfFactors, termCost, kind, weight, weightAll]

/-! ## All terms -/

/-- A sum of terms that is no heavier than they are has them as its summands. -/
theorem perm_summands_of_sumOfTerms_eq
    {terms : List Expr}
    {expr : Expr}
    (nonzero : expr ≠ 0)
    (light : weightAll terms ≤ weightAll expr.summands)
    (built : sumOfTerms terms = expr) :
    terms.Perm expr.summands := by
  subst built
  match terms with
  | [] => exact absurd rfl nonzero
  | [term] =>
      have flat : term.kind ≠ .sum := fun isSum => by
        have := weightAll_summands_lt term isSum
        rw [sumOfTerms, weightAll, weightAll] at light
        omega
      rw [sumOfTerms, summands_eq_singleton flat]
  | first :: second :: others => exact (perm_arrange _).symm

section Kept

variable {expr : Expr}
variable (regular : Regular expr) (nonzero : expr ≠ 0)
variable (kept : collectSum expr.summands = expr)
include regular nonzero kept

/-- If collecting the terms again changes nothing, the collected terms are the terms. -/
theorem collectedTerms_perm :
    ((termTally expr.summands).filterMap collectedTerm?).Perm
      (expr.summands.filter (!·.isNumber)) := by
  have noConstants := fun term member =>
    (isRegularTerm_of_mem_collected regular.summands term member).notNumber
  have light : weightAll ((termTally expr.summands).filterMap collectedTerm?) ≤
      weightAll expr.summands :=
    (weightAll_filterMap_le _).trans (totalSize_termTally_le _)
  unfold collectSum at kept
  dsimp only at kept
  split at kept
  · have perm := perm_summands_of_sumOfTerms_eq nonzero light kept
    simpa only [filter_not_isNumber_eq_self noConstants] using perm.filter (!·.isNumber)
  · have perm := perm_summands_of_sumOfTerms_eq nonzero
      (by simpa only [weightAll, weight, Nat.zero_add] using light) kept
    have others := perm.filter (!·.isNumber)
    rwa [List.filter_cons_of_neg (by simp [isNumber]), filter_not_isNumber_eq_self noConstants]
      at others

/-- Nothing was added up then, so that no two terms have the same part. -/
theorem nodup_parts_of_collectSum_eq :
    (Tally.keys ((expr.summands.filter (!·.isNumber)).map splitTerm)).Nodup := by
  apply Tally.nodup_keys_of_length_le
  rw [List.length_map, ← (collectedTerms_perm regular nonzero kept).length_eq]
  exact List.length_filterMap_le _ _

/-- Nor was a coefficient multiplied into a product. -/
theorem unscaled_of_collectSum_eq :
    ∀ term ∈ expr.summands, ¬IsScaledProduct term := by
  intro term member scaled
  have notNumber : term.isNumber = false := by
    obtain ⟨coefficient, factors, rfl⟩ := scaled
    rfl
  -- The collected terms weigh what the terms weigh, and no more than the tally costs. But
  -- a scaled product costs the tally less than it weighs, and no other term costs it more.
  have collected := weightAll_filterMap_le (termTally expr.summands)
  rw [weightAll_perm (collectedTerms_perm regular nonzero kept), weightAll_eq_totalSize, termTally,
    Tally.ofEntries_eq_self (nodup_parts_of_collectSum_eq regular nonzero kept),
    totalSize_map] at collected
  have saved : totalSize (fun operand => termCost (splitTerm operand))
        (expr.summands.filter (!·.isNumber)) <
      totalSize weight (expr.summands.filter (!·.isNumber)) := by
    refine totalSize_lt (fun operand inTerms => ?_)
      (List.mem_filter.mpr ⟨member, by simpa using notNumber⟩) (termCost_splitTerm_lt scaled)
    exact (termCost_splitTerm (by simpa using (List.mem_filter.mp inTerms).2)).1
  omega

end Kept

end Simplify

namespace Expr

open Simplify

/-- No term is a coefficient with a nested product, and no two terms are the same apart
from their coefficients. -/
structure KeepsTerms (expr : Expr) : Prop where
  unscaled : ∀ term ∈ expr.summands, ¬IsScaledProduct term
  distinct : ((expr.summands.filter (!·.isNumber)).map fun term => (splitTerm term).1).Nodup

/-- Collecting the terms of such an expression again gives the expression. -/
theorem KeepsTerms.collectSum_summands
    {expr : Expr}
    (keeps : KeepsTerms expr)
    (wellFormed : WellFormed expr)
    (regular : Regular expr) :
    collectSum expr.summands = expr := by
  have givenBack : ∀ term ∈ expr.summands, term.isNumber = false →
      collectedTerm? (splitTerm term) = some term := fun term member _ =>
    collectedTerm?_splitTerm ((Checked.wellFormed_summands wellFormed).2 term member)
      (regular.summands term member) (keeps.unscaled term member)
  by_cases isZero : expr = 0
  · subst isZero
    decide +kernel
  · cases wellFormed with
    | sum operands several ordered =>
        cases regular with
        | sum _ _ oneConstant nonzero =>
            exact (collectSum_eq_sumOfTerms ordered oneConstant nonzero givenBack
              keeps.distinct).trans (sumOfTerms_eq_sum (List.Perm.refl _) several ordered)
    | _ =>
        exact collectSum_eq_sumOfTerms (List.pairwise_singleton _ _) (List.length_filter_le _ _)
          (fun member => isZero (List.mem_singleton.mp member).symm) givenBack keeps.distinct

/-- Collecting the terms of a well-formed regular expression again gives the expression
exactly when it has neither of the two kinds of terms. -/
theorem collectSum_summands_eq_iff
    {expr : Expr}
    (wellFormed : WellFormed expr)
    (regular : Regular expr) :
    collectSum expr.summands = expr ↔ KeepsTerms expr := by
  refine ⟨fun kept => ?_, fun keeps => keeps.collectSum_summands wellFormed regular⟩
  by_cases isZero : expr = 0
  · subst isZero
    exact ⟨List.forall_mem_singleton.mpr nofun, List.nodup_nil⟩
  · have distinct := nodup_parts_of_collectSum_eq regular isZero kept
    rw [Tally.keys, List.map_map] at distinct
    exact ⟨unscaled_of_collectSum_eq regular isZero kept, distinct⟩

/-- The terms of a settled expression are kept. -/
theorem Settled.keepsTerms {expr : Expr} (settled : Settled expr) : KeepsTerms expr := by
  have unscaled {term : Expr} (termSettled : Settled term) : ¬IsScaledProduct term := by
    rintro ⟨coefficient, factors, rfl⟩
    cases termSettled with
    | product _ several ordered operandsSettled flat =>
        exact flat _ (List.mem_cons_of_mem _ List.mem_cons_self) rfl
  cases settled with
  | sum operands several ordered operandsSettled flat oneConstant nonzero distinct =>
      exact ⟨fun term member => unscaled (operandsSettled term member), distinct⟩
  | product operands several ordered operandsSettled flat oneConstant nonzero notOne distinct =>
      refine ⟨List.forall_mem_singleton.mpr (unscaled ?_), List.nodup_singleton _⟩
      exact .product operands several ordered operandsSettled flat oneConstant nonzero notOne
        distinct
  | number value => exact ⟨List.forall_mem_singleton.mpr nofun, List.nodup_nil⟩
  | _ => exact ⟨List.forall_mem_singleton.mpr nofun, List.nodup_singleton _⟩

end Expr
end ExactAlgebra
