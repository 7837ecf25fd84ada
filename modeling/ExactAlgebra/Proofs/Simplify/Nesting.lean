import ExactAlgebra.Proofs.Simplify.Parts
import ExactAlgebra.Rewrite.Weight

/-!
# Splicing and nesting cost weight

Splicing a nested sum or product into its surroundings drops a node. So does adding
up coefficients to one around a sum, or exponents to one around a product, which is
how collecting leaves a sum among terms or a product among factors. If collecting
loses no weight, nothing was spliced and nothing is left nested.
-/

namespace ExactAlgebra

/-- A total size grows with every member, and strictly if one member does. -/
theorem totalSize_lt
    {small large : α → Nat}
    {members : List α}
    (each : ∀ member ∈ members, small member ≤ large member)
    {member : α}
    (belongs : member ∈ members)
    (grows : small member < large member) :
    totalSize small members < totalSize large members := by
  have bound {rest : List α} (each : ∀ member ∈ rest, small member ≤ large member) :
      totalSize small rest ≤ totalSize large rest := by
    induction rest with
    | nil => exact Nat.le_refl _
    | cons head tail hypothesis =>
        have here := each head List.mem_cons_self
        have there := hypothesis fun other inTail => each other (List.mem_cons_of_mem _ inTail)
        simp only [totalSize]
        omega
  induction members with
  | nil => cases belongs
  | cons head tail hypothesis =>
      have here := each head List.mem_cons_self
      have tailEach := fun other inTail => each other (List.mem_cons_of_mem _ inTail)
      simp only [totalSize]
      rcases List.mem_cons.mp belongs with rfl | inTail
      · have := bound tailEach
        omega
      · have := hypothesis tailEach inTail
        omega

namespace Expr

theorem lightening_simplify : Simplify.Lightening simplify :=
  fun _ _ => weight_simplify_le

/-- If simplifying the operands loses no weight, simplifying none of them does. -/
theorem forall_mem_of_weightAll_le
    {property : Expr → Prop}
    {operands simplified : List Expr}
    (mapped : operands.mapM simplify = .ok simplified)
    (heavy : weightAll operands ≤ weightAll simplified)
    (each : ∀ operand ∈ operands, ∀ part,
      operand.simplify = .ok part → operand.weight ≤ part.weight → property part) :
    ∀ part ∈ simplified, property part := by
  have results := mapM_eq_ok_iff.mp mapped
  induction results with
  | nil => exact nofun
  | @cons operand part operands parts here there hypothesis =>
      have partsMapped := mapM_eq_ok_iff.mpr there
      have lighter := weight_simplify_le here
      have partsLighter := Simplify.weightAll_le_of_mapM_eq_ok lightening_simplify partsMapped
      simp only [weightAll] at heavy
      refine List.forall_mem_cons.mpr ⟨each operand List.mem_cons_self part here (by omega), ?_⟩
      exact hypothesis partsMapped (by omega)
        fun other member => each other (List.mem_cons_of_mem _ member)

/-- If splicing loses no weight, there was nothing to splice. -/
theorem flat_of_weightAll_le
    {split : Expr → List Expr}
    {kind : Kind}
    (bounded : ∀ expr, weightAll (split expr) ≤ expr.weight)
    (spliced : ∀ expr, expr.kind = kind → weightAll (split expr) < expr.weight)
    {operands : List Expr}
    (heavy : weightAll operands ≤ weightAll (operands.flatMap split)) :
    ∀ operand ∈ operands, operand.kind ≠ kind := by
  induction operands with
  | nil => exact nofun
  | cons head tail hypothesis =>
      have here := bounded head
      have there := weightAll_flatMap_le bounded tail
      simp only [List.flatMap_cons, weightAll_append, weightAll] at heavy
      refine List.forall_mem_cons.mpr ⟨fun same => ?_, hypothesis (by omega)⟩
      have := spliced head same
      omega

theorem weightAll_summands_lt (expr : Expr) (isSum : expr.kind = .sum) :
    weightAll expr.summands < expr.weight := by
  cases expr with
  | sum operands => exact Nat.lt_succ_self _
  | _ => cases isSum

theorem weightAll_factors_lt (expr : Expr) (isProduct : expr.kind = .product) :
    weightAll expr.factors < expr.weight := by
  cases expr with
  | product operands => exact Nat.lt_succ_self _
  | _ => cases isProduct

end Expr

namespace Simplify

open ExactAlgebra.Expr

/-! ## Sums among terms -/

/-- What a tallied coefficient costs, with a node for the coefficient of a sum even
if the coefficient is one. -/
def nestedTermCost (entry : Expr × Fraction) : Nat :=
  if entry.1.kind = .sum then entry.1.weight + 1 else termCost entry

/-- A settled term that is neither a constant nor a sum pays for its entry. -/
theorem nestedTermCost_splitTerm
    {operand : Expr}
    (settled : Settled operand)
    (notNumber : operand.isNumber = false)
    (flat : operand.kind ≠ .sum) :
    nestedTermCost (splitTerm operand) ≤ operand.weight ∧
      ∀ total,
        nestedTermCost ((splitTerm operand).1, total + (splitTerm operand).2) ≤
          nestedTermCost ((splitTerm operand).1, total) + operand.weight := by
  obtain ⟨part, coefficient, isPart, split, collected⟩ := exists_isTermPart settled notNumber
  have plain := termCost_splitTerm notNumber
  rw [split] at plain ⊢
  dsimp only [nestedTermCost] at plain ⊢
  by_cases isSum : part.kind = .sum
  · simp only [if_pos isSum]
    refine ⟨?_, fun _ => Nat.le_add_right _ _⟩
    unfold collectedTerm? at collected
    split at collected
    · cases collected
    · split at collected
      · cases collected
        exact absurd isSum flat
      · cases collected
        have alone : part.factors = [part] := by
          cases part with
          | sum operands => rfl
          | _ => cases isSum
        rw [isPart.scale_eq, alone]
        simp [weight, weightAll]
  · simpa only [if_neg isSum] using plain

/-- If collecting settled terms loses no weight, no collected term is a sum. -/
theorem ne_sum_of_weight_le
    {operands : List Expr}
    (settled : ∀ operand ∈ operands, Settled operand)
    (flat : ∀ operand ∈ operands, operand.kind ≠ .sum)
    (heavy : weightAll operands + 1 ≤ (collectSum operands).weight)
    {entry : Expr × Fraction}
    (member : entry ∈ termTally operands)
    (isOne : entry.2 = 1) :
    entry.1.kind ≠ .sum := by
  intro isSum
  have pays (operand : Expr) (member : operand ∈ operands.filter (!·.isNumber)) :=
    have both := List.mem_filter.mp member
    nestedTermCost_splitTerm (settled operand both.1) (by simpa using both.2) (flat operand both.1)
  have bound := Tally.totalSize_foldl_insert_le nestedTermCost splitTerm weight
    (operands.filter (!·.isNumber))
    (fun operand member => (pays operand member).1)
    (fun operand member => (pays operand member).2) []
  have filtered := weightAll_filter_le (!·.isNumber) operands
  rw [weightAll_eq_totalSize] at filtered
  have strict : totalSize termCost (termTally operands) <
      totalSize nestedTermCost (termTally operands) := by
    apply totalSize_lt _ member
    · simp [termCost, nestedTermCost, isOne, isSum]
    · intro other _
      unfold nestedTermCost
      split
      · exact termCost_le other
      · exact Nat.le_refl _
  have total := weight_collectSum_le_termCost operands
  change totalSize nestedTermCost (termTally operands) ≤ 0 + _ at bound
  omega

/-! ## Products among factors -/

/-- What a tallied exponent costs, with a node for the exponent of a product even if
the exponent is one. -/
def nestedFactorCost (entry : Expr × Fraction) : Nat :=
  if entry.1.kind = .product then entry.1.weight + 1 else factorCost entry

/-- A factor that is neither a constant nor a product pays for its entry. -/
theorem nestedFactorCost_splitFactor
    {operand : Expr}
    (notNumber : operand.isNumber = false)
    (flat : operand.kind ≠ .product) :
    nestedFactorCost (splitFactor operand) ≤ operand.weight ∧
      ∀ total,
        nestedFactorCost ((splitFactor operand).1, total + (splitFactor operand).2) ≤
          nestedFactorCost ((splitFactor operand).1, total) + operand.weight := by
  have plain := factorCost_splitFactor notNumber
  dsimp only [nestedFactorCost] at plain ⊢
  by_cases isProduct : (splitFactor operand).1.kind = .product
  · simp only [if_pos isProduct]
    refine ⟨?_, fun _ => Nat.le_add_right _ _⟩
    cases operand with
    | power base exponent => exact Nat.le_refl _
    | product operands => exact absurd rfl flat
    | _ => cases isProduct
  · simpa only [if_neg isProduct] using plain

/-- If collecting factors loses no weight, no collected factor is a product. -/
theorem ne_product_of_weight_le
    {operands : List Expr}
    (flat : ∀ operand ∈ operands, operand.kind ≠ .product)
    {result : Expr}
    (success : collectProduct Expr.simplify operands = .ok result)
    (heavy : weightAll operands + 1 ≤ result.weight)
    {entry : Expr × Fraction}
    (member : entry ∈ factorTally operands)
    (isOne : entry.2 = 1) :
    entry.1.kind ≠ .product := by
  intro isProduct
  have pays (operand : Expr) (member : operand ∈ operands.filter (!·.isNumber)) :=
    have both := List.mem_filter.mp member
    nestedFactorCost_splitFactor (by simpa using both.2) (flat operand both.1)
  have bound := Tally.totalSize_foldl_insert_le nestedFactorCost splitFactor weight
    (operands.filter (!·.isNumber))
    (fun operand member => (pays operand member).1)
    (fun operand member => (pays operand member).2) []
  have filtered := weightAll_filter_le (!·.isNumber) operands
  rw [weightAll_eq_totalSize] at filtered
  have strict : totalSize factorCost (factorTally operands) <
      totalSize nestedFactorCost (factorTally operands) := by
    apply totalSize_lt _ member
    · simp [factorCost, nestedFactorCost, isOne, isProduct]
    · intro other _
      unfold nestedFactorCost
      split
      · exact factorCost_le other
      · exact Nat.le_refl _
  have total := weight_collectProduct_le_factorCost lightening_simplify success
  change totalSize nestedFactorCost (factorTally operands) ≤ 0 + _ at bound
  omega

end Simplify
end ExactAlgebra
