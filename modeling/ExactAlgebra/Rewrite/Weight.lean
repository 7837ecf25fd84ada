import ExactAlgebra.Rewrite.Cases

/-!
# The recursion of simplification

Simplifying never makes an expression heavier, and every part that the step
simplifies is lighter than the whole. Hence the depth that `simplify` chooses is
always enough, and simplification satisfies the equation that its rules suggest:
it is one step whose parts are simplified by simplification itself.
-/

namespace ExactAlgebra

/-- The sizes of the members of a list, added up. -/
def totalSize (size : α → Nat) : List α → Nat
  | [] => 0
  | member :: members => size member + totalSize size members

/-- A member of a list is no larger than all members together. -/
theorem le_totalSize
    {member : α}
    {members : List α}
    (size : α → Nat)
    (belongs : member ∈ members) :
    size member ≤ totalSize size members := by
  induction belongs with
  | head => exact Nat.le_add_right _ _
  | tail _ _ hypothesis => exact Nat.le_trans hypothesis (Nat.le_add_left _ _)

/-- Mapping a failing function over a list keeps a bound on the total size. -/
theorem totalSize_le_of_mapM_eq_ok
    {function : α → Except ε β}
    {inputSize : α → Nat}
    {outputSize : β → Nat}
    {inputs : List α}
    {outputs : List β}
    (bounded : ∀ input ∈ inputs, ∀ output,
      function input = .ok output → outputSize output ≤ inputSize input)
    (success : inputs.mapM function = .ok outputs) :
    totalSize outputSize outputs ≤ totalSize inputSize inputs := by
  induction inputs generalizing outputs with
  | nil =>
      rw [List.mapM_nil] at success
      cases success
      exact Nat.le_refl _
  | cons input inputs hypothesis =>
      rw [List.mapM_cons] at success
      obtain ⟨output, first, rest⟩ := except_bind_eq_ok success
      obtain ⟨others, second, last⟩ := except_bind_eq_ok rest
      cases last
      have here := bounded input List.mem_cons_self output first
      have there := hypothesis
        (fun other member => bounded other (List.mem_cons_of_mem _ member)) second
      simp only [totalSize]
      omega

/-- Functions that agree on the members of a list map it in the same way. -/
theorem mapM_congr
    {first second : α → Except ε β}
    {inputs : List α}
    (agree : ∀ input ∈ inputs, first input = second input) :
    inputs.mapM first = inputs.mapM second := by
  induction inputs with
  | nil => rfl
  | cons input inputs hypothesis =>
      rw [List.mapM_cons, List.mapM_cons, agree input List.mem_cons_self,
        hypothesis fun other member => agree other (List.mem_cons_of_mem _ member)]

namespace Expr

theorem weightAll_eq_totalSize (operands : List Expr) :
    weightAll operands = totalSize weight operands := by
  induction operands with
  | nil => rfl
  | cons operand operands hypothesis => simp [weightAll, totalSize, hypothesis]

@[simp] theorem weightAll_append (left right : List Expr) :
    weightAll (left ++ right) = weightAll left + weightAll right := by
  induction left with
  | nil => simp [weightAll]
  | cons operand operands hypothesis =>
      simp only [List.cons_append, weightAll]
      omega

theorem weightAll_perm {left right : List Expr} (perm : left.Perm right) :
    weightAll left = weightAll right := by
  induction perm with
  | nil => rfl
  | cons _ _ hypothesis => simp only [weightAll, hypothesis]
  | swap first second rest => simp only [weightAll]; omega
  | trans _ _ left right => exact left.trans right

theorem weightAll_flatten (lists : List (List Expr)) :
    weightAll lists.flatten = totalSize weightAll lists := by
  induction lists with
  | nil => rfl
  | cons list lists hypothesis => simp [totalSize, hypothesis]

theorem weight_le_weightAll {operand : Expr} {operands : List Expr}
    (member : operand ∈ operands) :
    operand.weight ≤ weightAll operands := by
  induction operands with
  | nil => cases member
  | cons head tail hypothesis =>
      simp only [weightAll]
      rcases List.mem_cons.mp member with equal | inTail
      · subst equal
        omega
      · have := hypothesis inTail
        omega

theorem weightAll_filter_le (keep : Expr → Bool) (operands : List Expr) :
    weightAll (operands.filter keep) ≤ weightAll operands := by
  induction operands with
  | nil => simp
  | cons operand operands hypothesis =>
      rw [List.filter_cons]
      split <;> simp only [weightAll] <;> omega

theorem weightAll_flatMap_le
    {split : Expr → List Expr}
    (bounded : ∀ expr, weightAll (split expr) ≤ expr.weight)
    (operands : List Expr) :
    weightAll (operands.flatMap split) ≤ weightAll operands := by
  induction operands with
  | nil => simp [weightAll]
  | cons operand operands hypothesis =>
      have := bounded operand
      simp only [List.flatMap_cons, weightAll_append, weightAll]
      omega

theorem weightAll_summands_le (expr : Expr) : weightAll expr.summands ≤ expr.weight := by
  cases expr <;> simp [summands, weightAll, weight]

theorem weightAll_factors_le (expr : Expr) : weightAll expr.factors ≤ expr.weight := by
  cases expr <;> simp [factors, weightAll, weight]

@[simp] theorem weight_productOf (operands : List Expr) :
    (productOf operands).weight = weightAll operands + 1 := by
  rw [productOf, weight, arrange, weightAll_perm (Sorting.perm_sort le operands)]

@[simp] theorem weight_sumOf (operands : List Expr) :
    (sumOf operands).weight = weightAll operands + 1 := by
  rw [sumOf, weight, arrange, weightAll_perm (Sorting.perm_sort le operands)]

theorem weight_sumOfTerms_le (terms : List Expr) :
    (sumOfTerms terms).weight ≤ weightAll terms + 1 := by
  match terms with
  | [] => exact Nat.zero_le _
  | [term] => simp [sumOfTerms, weightAll]
  | first :: second :: others => simp [sumOfTerms]

theorem weight_productOfFactors_le (factors : List Expr) :
    (productOfFactors factors).weight ≤ weightAll factors + 1 := by
  match factors with
  | [] => exact Nat.zero_le _
  | [factor] => simp [productOfFactors, weightAll]
  | first :: second :: others => simp [productOfFactors]

theorem one_le_weight_of_isNumber_eq_false {expr : Expr} (notNumber : expr.isNumber = false) :
    1 ≤ expr.weight := by
  cases expr <;> simp [isNumber, value?, weight] at notNumber ⊢

end Expr

namespace Tally

/-- If every entry costs at most its amount of a budget, and adding to a key costs
at most that amount more, then all totals together cost at most the budget. -/
theorem totalSize_insert_le
    [DecidableEq α]
    (cost : α × Fraction → Nat)
    {key : α}
    {amount : Fraction}
    {budget : Nat}
    (alone : cost (key, amount) ≤ budget)
    (added : ∀ total, cost (key, total + amount) ≤ cost (key, total) + budget)
    (tally : Tally α) :
    totalSize cost (tally.insert key amount) ≤ totalSize cost tally + budget := by
  induction tally with
  | nil => simpa [insert, totalSize] using alone
  | cons entry rest hypothesis =>
      obtain ⟨other, total⟩ := entry
      simp only [insert]
      split
      · rename_i equal
        subst equal
        have := added total
        simp only [totalSize]
        omega
      · simp only [totalSize]
        omega

theorem totalSize_foldl_insert_le
    [DecidableEq α]
    (cost : α × Fraction → Nat)
    (split : β → α × Fraction)
    (budget : β → Nat)
    (inputs : List β)
    (alone : ∀ input ∈ inputs, cost (split input) ≤ budget input)
    (added : ∀ input ∈ inputs, ∀ total,
      cost ((split input).1, total + (split input).2) ≤
        cost ((split input).1, total) + budget input)
    (tally : Tally α) :
    totalSize cost
        ((inputs.map split).foldl
          (fun (tally : Tally α) entry => tally.insert entry.1 entry.2) tally) ≤
      totalSize cost tally + totalSize budget inputs := by
  induction inputs generalizing tally with
  | nil => simp [totalSize]
  | cons input inputs hypothesis =>
      have here := totalSize_insert_le cost
        (alone input List.mem_cons_self) (added input List.mem_cons_self) tally
      have there := hypothesis
        (fun other member => alone other (List.mem_cons_of_mem _ member))
        (fun other member => added other (List.mem_cons_of_mem _ member))
        (tally.insert (split input).1 (split input).2)
      simp only [List.map_cons, List.foldl_cons, totalSize]
      omega

end Tally

namespace Simplify

open ExactAlgebra.Expr

/-- The weight of the term that a tallied coefficient leaves, at most: a
coefficient other than one makes a product unless the term is one. -/
def termCost (entry : Expr × Fraction) : Nat :=
  if entry.2 = 1 ∨ entry.1.kind = .product then entry.1.weight else entry.1.weight + 1

/-- The weight of the power that a tallied exponent leaves, at most. -/
def factorCost (entry : Expr × Fraction) : Nat :=
  if entry.2 = 1 then entry.1.weight else entry.1.weight + 1

theorem weight_le_termCost (entry : Expr × Fraction) : entry.1.weight ≤ termCost entry := by
  rw [termCost]
  split <;> omega

theorem termCost_le (entry : Expr × Fraction) : termCost entry ≤ entry.1.weight + 1 := by
  rw [termCost]
  split <;> omega

theorem weight_le_factorCost (entry : Expr × Fraction) :
    entry.1.weight ≤ factorCost entry := by
  rw [factorCost]
  split <;> omega

theorem factorCost_le (entry : Expr × Fraction) : factorCost entry ≤ entry.1.weight + 1 := by
  rw [factorCost]
  split <;> omega

/-- A term that is split off a product costs no more than the product. -/
theorem termCost_productOfFactors_le (rest : List Expr) (coefficient : Fraction) :
    termCost (productOfFactors rest, coefficient) ≤ weightAll rest + 1 := by
  match rest with
  | [] => exact termCost_le _
  | [factor] =>
      simpa [productOfFactors, weightAll] using termCost_le (factor, coefficient)
  | first :: second :: others =>
      simp [productOfFactors, termCost, productOf, kind, weight, arrange,
        weightAll_perm (Sorting.perm_sort le (first :: second :: others))]

/-- A term that is no constant pays for its entry in a tally. -/
theorem termCost_splitTerm
    {operand : Expr}
    (notNumber : operand.isNumber = false) :
    termCost (splitTerm operand) ≤ operand.weight ∧
      ∀ total,
        termCost ((splitTerm operand).1, total + (splitTerm operand).2) ≤
          termCost ((splitTerm operand).1, total) + operand.weight := by
  have positive := one_le_weight_of_isNumber_eq_false notNumber
  unfold splitTerm
  split
  · rename_i coefficient rest
    simp only [weight, weightAll]
    constructor
    · have := termCost_productOfFactors_le rest coefficient
      omega
    · intro total
      have := termCost_productOfFactors_le rest (total + coefficient)
      omega
  · constructor
    · simp [termCost]
    · intro total
      have upper := termCost_le (operand, total + 1)
      have lower := weight_le_termCost (operand, total)
      simp only at upper lower ⊢
      omega

/-- A factor that is no constant pays for its entry in a tally. -/
theorem factorCost_splitFactor
    {operand : Expr}
    (notNumber : operand.isNumber = false) :
    factorCost (splitFactor operand) ≤ operand.weight ∧
      ∀ total,
        factorCost ((splitFactor operand).1, total + (splitFactor operand).2) ≤
          factorCost ((splitFactor operand).1, total) + operand.weight := by
  have positive := one_le_weight_of_isNumber_eq_false notNumber
  unfold splitFactor
  split
  · rename_i base exponent
    simp only [weight]
    constructor
    · exact factorCost_le (base, exponent)
    · intro total
      have := factorCost_le (base, total + exponent)
      simp only at this
      omega
  · constructor
    · simp [factorCost]
    · intro total
      have upper := factorCost_le (operand, total + 1)
      have lower := weight_le_factorCost (operand, total)
      simp only at upper lower ⊢
      omega

theorem totalSize_termTally_le (operands : List Expr) :
    totalSize termCost (termTally operands) ≤ weightAll operands := by
  have bound := Tally.totalSize_foldl_insert_le termCost splitTerm weight
    (operands.filter (!·.isNumber))
    (fun operand member =>
      (termCost_splitTerm (by simpa using (List.mem_filter.mp member).2)).1)
    (fun operand member =>
      (termCost_splitTerm (by simpa using (List.mem_filter.mp member).2)).2)
    []
  have filtered := weightAll_filter_le (!·.isNumber) operands
  rw [weightAll_eq_totalSize] at filtered
  simp only [totalSize, Nat.zero_add] at bound
  exact Nat.le_trans bound filtered

theorem totalSize_factorTally_le (operands : List Expr) :
    totalSize factorCost (factorTally operands) ≤ weightAll operands := by
  have bound := Tally.totalSize_foldl_insert_le factorCost splitFactor weight
    (operands.filter (!·.isNumber))
    (fun operand member =>
      (factorCost_splitFactor (by simpa using (List.mem_filter.mp member).2)).1)
    (fun operand member =>
      (factorCost_splitFactor (by simpa using (List.mem_filter.mp member).2)).2)
    []
  have filtered := weightAll_filter_le (!·.isNumber) operands
  rw [weightAll_eq_totalSize] at filtered
  simp only [totalSize, Nat.zero_add] at bound
  exact Nat.le_trans bound filtered

/-- The term that a tallied coefficient leaves weighs at most its cost. -/
theorem weight_collectedTerm_le
    {entry : Expr × Fraction}
    {term : Expr}
    (collected : collectedTerm? entry = some term) :
    term.weight ≤ termCost entry := by
  rcases cases_of_collectedTerm?_eq_some collected with ⟨_, rfl⟩ | ⟨_, notOne, rfl⟩
  · exact weight_le_termCost entry
  · unfold scale
    split
    · rename_i operands equal
      simp [termCost, equal, kind, weightAll, weight]
    · rename_i notProduct
      have otherKind : entry.1.kind ≠ .product := by
        intro isProduct
        cases shape : entry.1 with
        | product operands => exact notProduct operands shape
        | _ => simp [shape, kind] at isProduct
      simp [termCost, notOne, otherKind, weightAll, weight]

theorem weightAll_filterMap_le (tally : Tally Expr) :
    weightAll (tally.filterMap collectedTerm?) ≤ totalSize termCost tally := by
  induction tally with
  | nil => simp [weightAll]
  | cons entry rest hypothesis =>
      rw [List.filterMap_cons]
      split
      · simp only [totalSize]
        omega
      · rename_i term collected
        have := weight_collectedTerm_le collected
        simp only [totalSize, weightAll]
        omega

/-- A sum of collected terms weighs at most what its tally costs. -/
theorem weight_collectSum_le_termCost (operands : List Expr) :
    (collectSum operands).weight ≤ totalSize termCost (termTally operands) + 1 := by
  have terms := weightAll_filterMap_le (termTally operands)
  unfold collectSum
  refine Nat.le_trans (weight_sumOfTerms_le _) ?_
  split
  · omega
  · simp only [weightAll, weight]
    omega

/-- Adding up terms makes nothing heavier. -/
theorem weight_collectSum_le (operands : List Expr) :
    (collectSum operands).weight ≤ weightAll operands + 1 :=
  Nat.le_trans (weight_collectSum_le_termCost operands)
    (Nat.succ_le_succ (totalSize_termTally_le operands))

/-- A way to simplify parts that makes nothing heavier. -/
def Lightening (simplifyPart : Expr → Except RewriteError Expr) : Prop :=
  ∀ expr result, simplifyPart expr = .ok result → result.weight ≤ expr.weight

/-- Mapping it makes no list heavier. -/
theorem weightAll_le_of_mapM_eq_ok
    {simplifyPart : Expr → Except RewriteError Expr}
    (lightening : Lightening simplifyPart)
    {operands simplified : List Expr}
    (mapped : operands.mapM simplifyPart = .ok simplified) :
    weightAll simplified ≤ weightAll operands := by
  rw [weightAll_eq_totalSize, weightAll_eq_totalSize]
  exact totalSize_le_of_mapM_eq_ok (fun operand _ => lightening operand) mapped

/-- The factors that a tallied exponent leaves weigh at most its cost. -/
theorem weightAll_collectedFactor_le
    {simplifyPart : Expr → Except RewriteError Expr}
    (lightening : Lightening simplifyPart)
    {entry : Expr × Fraction}
    {factors : List Expr}
    (collected : collectedFactor simplifyPart entry = .ok factors) :
    weightAll factors ≤ factorCost entry := by
  cases collectsTo_of_collectedFactor_eq_ok collected with
  | zero => exact Nat.zero_le _
  | one => simpa [weightAll] using weight_le_factorCost entry
  | power nonzero notOne found =>
      have := lightening _ _ found
      simpa [weightAll, factorCost, notOne, weight] using this

theorem weight_assembleProduct_le (coefficient : Fraction) (operands : List Expr) :
    (assembleProduct coefficient operands).weight ≤ weightAll operands + 1 := by
  unfold assembleProduct
  split
  · exact Nat.zero_le _
  · split
    · exact weight_productOfFactors_le operands
    · refine Nat.le_trans (weight_productOfFactors_le _) ?_
      simp [weightAll, weight]

/-- A product of collected factors weighs at most what its tally costs. -/
theorem weight_collectProduct_le_factorCost
    {simplifyPart : Expr → Except RewriteError Expr}
    (lightening : Lightening simplifyPart)
    {operands : List Expr}
    {result : Expr}
    (success : collectProduct simplifyPart operands = .ok result) :
    result.weight ≤ totalSize factorCost (factorTally operands) + 1 := by
  cases multipliesTo_of_collectProduct_eq_ok success with
  | zero => exact Nat.zero_le _
  | @assembled collected nonzero mapped =>
      have bound : totalSize weightAll collected ≤
          totalSize factorCost (factorTally operands) :=
        totalSize_le_of_mapM_eq_ok
          (fun _ _ _ => weightAll_collectedFactor_le lightening) mapped
      have kept := weightAll_filter_le (!·.isNumber) collected.flatten
      rw [weightAll_flatten] at kept
      refine Nat.le_trans (weight_assembleProduct_le _ _) ?_
      omega

/-- Multiplying factors makes nothing heavier. -/
theorem weight_collectProduct_le
    {simplifyPart : Expr → Except RewriteError Expr}
    (lightening : Lightening simplifyPart)
    {operands : List Expr}
    {result : Expr}
    (success : collectProduct simplifyPart operands = .ok result) :
    result.weight ≤ weightAll operands + 1 :=
  Nat.le_trans (weight_collectProduct_le_factorCost lightening success)
    (Nat.succ_le_succ (totalSize_factorTally_le operands))

/-- A power of a constant weighs at most one. -/
theorem weight_numberPower_le
    {value exponent : Fraction}
    {result : Expr}
    (success : numberPower value exponent = .ok result) :
    result.weight ≤ 1 := by
  rw [numberPower] at success
  obtain ⟨found, _, rest⟩ := except_bind_eq_ok success
  cases found with
  | some power =>
      cases rest
      exact Nat.zero_le _
  | none =>
      dsimp only at rest
      split at rest
      · obtain ⟨inverse, _, last⟩ := except_bind_eq_ok rest
        cases last
        exact Nat.le_refl _
      · cases rest
        exact Nat.le_refl _

/-- Raising a base makes it heavier by at most one. -/
theorem weight_raise_le
    {simplifyPart : Expr → Except RewriteError Expr}
    (lightening : Lightening simplifyPart)
    {base result : Expr}
    {exponent : Fraction}
    (success : raise simplifyPart base exponent = .ok result) :
    result.weight ≤ base.weight + 1 := by
  cases raisesTo_of_raise_eq_ok success with
  | zero => exact Nat.zero_le _
  | one => exact Nat.le_succ _
  | constant nonzero notOne found =>
      exact Nat.le_trans (weight_numberPower_le found) (Nat.le_add_left _ _)
  | nested nonzero notOne found =>
      have := lightening _ _ found
      simp only [weight] at this ⊢
      omega
  | kept => exact Nat.le_refl _

/-- A step makes nothing heavier if the way it simplifies parts does not. -/
theorem lightening_step
    {simplifyPart : Expr → Except RewriteError Expr}
    (lightening : Lightening simplifyPart) :
    Lightening (step simplifyPart) := by
  intro expr result success
  cases expr with
  | number value =>
      cases success
      exact Nat.le_refl _
  | symbol name =>
      cases success
      exact Nat.le_refl _
  | sum operands =>
      obtain ⟨simplified, mapped, last⟩ := except_bind_eq_ok success
      cases last
      have parts := weightAll_le_of_mapM_eq_ok lightening mapped
      have spliced := weightAll_flatMap_le weightAll_summands_le simplified
      have total := weight_collectSum_le (simplified.flatMap summands)
      simp only [weight]
      omega
  | product operands =>
      obtain ⟨simplified, mapped, last⟩ := except_bind_eq_ok success
      have parts := weightAll_le_of_mapM_eq_ok lightening mapped
      have spliced := weightAll_flatMap_le weightAll_factors_le simplified
      have total := weight_collectProduct_le lightening last
      simp only [weight]
      omega
  | power base exponent =>
      obtain ⟨simplified, part, last⟩ := except_bind_eq_ok success
      have inner := lightening base simplified part
      have total := weight_raise_le lightening last
      simp only [weight]
      omega

/-- Simplifying to any depth makes nothing heavier. -/
theorem lightening_toDepth (depth : Nat) : Lightening (toDepth depth) := by
  induction depth with
  | zero =>
      intro expr result success
      cases success
      exact Nat.le_refl _
  | succ depth hypothesis => exact lightening_step hypothesis

/-! ## Calls -/

/-- A step on the first expression calls for the second one to be simplified. These are
the direct parts first, then the powers of collected bases, and a power of a power with
the exponents multiplied. -/
inductive Calls (simplifyPart : Expr → Except RewriteError Expr) : Expr → Expr → Prop
  | term {operands : List Expr} {operand : Expr}
      (member : operand ∈ operands) :
      Calls simplifyPart (sum operands) operand
  | factor {operands : List Expr} {operand : Expr}
      (member : operand ∈ operands) :
      Calls simplifyPart (product operands) operand
  | base (base : Expr) (exponent : Fraction) :
      Calls simplifyPart (power base exponent) base
  | collected {operands simplified : List Expr} {entry : Expr × Fraction}
      (mapped : operands.mapM simplifyPart = .ok simplified)
      (nonzeroFactor : constantFactor (simplified.flatMap factors) ≠ 0)
      (member : entry ∈ factorTally (simplified.flatMap factors))
      (nonzero : entry.2 ≠ 0)
      (notOne : entry.2 ≠ 1) :
      Calls simplifyPart (product operands) (power entry.1 entry.2)
  | nested {base inner : Expr} {innerExponent exponent : Fraction}
      (simplified : simplifyPart base = .ok (power inner innerExponent))
      (nonzero : exponent ≠ 0)
      (notOne : exponent ≠ 1) :
      Calls simplifyPart (power base exponent) (power inner (innerExponent * exponent))

/-- Whatever is called for is lighter than the whole. -/
theorem Calls.weight_lt
    {simplifyPart : Expr → Except RewriteError Expr}
    (lightening : Lightening simplifyPart)
    {whole part : Expr}
    (calls : Calls simplifyPart whole part) :
    part.weight < whole.weight := by
  cases calls with
  | term member => exact Nat.lt_succ_of_le (weight_le_weightAll member)
  | factor member => exact Nat.lt_succ_of_le (weight_le_weightAll member)
  | base => exact Nat.lt_succ_self _
  | @collected operands simplified entry mapped nonzeroFactor member nonzero notOne =>
      have parts := weightAll_le_of_mapM_eq_ok lightening mapped
      have spliced := weightAll_flatMap_le weightAll_factors_le simplified
      have tally := totalSize_factorTally_le (simplified.flatMap factors)
      have cost := le_totalSize factorCost member
      rw [factorCost, if_neg notOne] at cost
      simp only [weight]
      omega
  | nested simplified nonzero notOne =>
      have inner := lightening _ _ simplified
      simp only [weight] at inner ⊢
      omega

section Congruence

variable {first second : Expr → Except RewriteError Expr}

/-- Collecting looks at a power of its base only if the exponent is neither zero nor one. -/
theorem collectedFactor_congr
    {entry : Expr × Fraction}
    (agree : entry.2 ≠ 0 → entry.2 ≠ 1 →
      first (power entry.1 entry.2) = second (power entry.1 entry.2)) :
    collectedFactor first entry = collectedFactor second entry := by
  unfold collectedFactor
  by_cases isZero : entry.2 = 0
  · rw [if_pos isZero, if_pos isZero]
  · rw [if_neg isZero, if_neg isZero]
    by_cases isOne : entry.2 = 1
    · rw [if_pos isOne, if_pos isOne]
    · rw [if_neg isOne, if_neg isOne, agree isZero isOne]

/-- Multiplying looks at collected powers only, and at none if a factor is zero. -/
theorem collectProduct_congr
    {operands : List Expr}
    (agree : constantFactor operands ≠ 0 → ∀ entry ∈ factorTally operands,
      entry.2 ≠ 0 → entry.2 ≠ 1 →
        first (power entry.1 entry.2) = second (power entry.1 entry.2)) :
    collectProduct first operands = collectProduct second operands := by
  unfold collectProduct
  by_cases isZero : constantFactor operands = 0
  · rw [if_pos isZero, if_pos isZero]
  · rw [if_neg isZero, if_neg isZero,
      mapM_congr fun entry member => collectedFactor_congr (agree isZero entry member)]

/-- Raising looks at a power of a power only. -/
theorem raise_congr
    {base : Expr}
    {exponent : Fraction}
    (agree : ∀ inner innerExponent, base = power inner innerExponent →
      exponent ≠ 0 → exponent ≠ 1 →
        first (power inner (innerExponent * exponent)) =
          second (power inner (innerExponent * exponent))) :
    raise first base exponent = raise second base exponent := by
  unfold raise
  by_cases isZero : exponent = 0
  · rw [if_pos isZero, if_pos isZero]
  · rw [if_neg isZero, if_neg isZero]
    by_cases isOne : exponent = 1
    · rw [if_pos isOne, if_pos isOne]
    · rw [if_neg isOne, if_neg isOne]
      cases base with
      | power inner innerExponent => exact agree inner innerExponent rfl isZero isOne
      | _ => rfl

/-- A step looks only at what it calls for. -/
theorem step_congr_of_calls
    {whole : Expr}
    (agree : ∀ part, Calls first whole part → first part = second part) :
    step first whole = step second whole := by
  cases whole with
  | number value => rfl
  | symbol name => rfl
  | sum operands =>
      simp only [step]
      rw [mapM_congr fun operand member => agree operand (.term member)]
  | product operands =>
      simp only [step]
      rw [← mapM_congr fun operand member => agree operand (.factor member)]
      cases mapped : operands.mapM first with
      | error cause => rfl
      | ok simplified =>
          refine collectProduct_congr fun nonzeroFactor entry member nonzero notOne => ?_
          exact agree _ (.collected mapped nonzeroFactor member nonzero notOne)
  | power base exponent =>
      simp only [step]
      rw [← agree base (.base base exponent)]
      cases simplified : first base with
      | error cause => rfl
      | ok result =>
          refine raise_congr fun inner innerExponent isPower nonzero notOne => ?_
          exact agree _ (.nested (isPower ▸ simplified) nonzero notOne)

end Congruence

/-- A step looks only at parts that are lighter than the whole. -/
theorem step_congr
    {first second : Expr → Except RewriteError Expr}
    (lightening : Lightening first)
    {expr : Expr}
    (agree : ∀ part, part.weight < expr.weight → first part = second part) :
    step first expr = step second expr :=
  step_congr_of_calls fun part calls => agree part (calls.weight_lt lightening)

/-- All depths that exceed the weight of an expression give the same result. -/
theorem toDepth_eq_toDepth
    {expr : Expr}
    {first second : Nat}
    (firstEnough : expr.weight < first)
    (secondEnough : expr.weight < second) :
    toDepth first expr = toDepth second expr := by
  induction first generalizing expr second with
  | zero => omega
  | succ first hypothesis =>
      cases second with
      | zero => omega
      | succ second =>
          apply step_congr (lightening_toDepth first)
          intro part lighter
          exact hypothesis (by omega) (by omega)

end Simplify

/-- Simplification is one step whose parts are simplified by simplification. -/
theorem Expr.simplify_eq_step (expr : Expr) :
    expr.simplify = Simplify.step Expr.simplify expr := by
  apply Simplify.step_congr (Simplify.lightening_toDepth expr.weight)
  intro part lighter
  exact Simplify.toDepth_eq_toDepth lighter (Nat.lt_succ_self _)

/-- Simplification makes no expression heavier. -/
theorem Expr.weight_simplify_le
    {expr result : Expr}
    (success : expr.simplify = .ok result) :
    result.weight ≤ expr.weight :=
  Simplify.lightening_toDepth _ expr result success

end ExactAlgebra
