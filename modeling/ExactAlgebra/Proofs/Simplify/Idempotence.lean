import ExactAlgebra.Proofs.Simplify.FixedPoint
import ExactAlgebra.Proofs.Simplify.Nesting

/-!
# When simplifying again changes nothing

Simplification need not give a settled expression: coefficients or exponents that
add up to one leave a sum among terms or a product among factors, and later rules
see the nested expression as one term or one factor. Each such step loses weight,
however. So simplification that loses no weight gives a settled expression, and the
settled expressions are exactly those that simplification leaves as they are.
-/

namespace ExactAlgebra

/-- Collecting some members under their labels keeps the order of the labels. -/
theorem map_filterMap_sublist
    {select : α → Option β}
    {label : α → γ}
    {newLabel : β → γ}
    {members : List α}
    (agree : ∀ member ∈ members, ∀ selected,
      select member = some selected → newLabel selected = label member) :
    ((members.filterMap select).map newLabel).Sublist (members.map label) := by
  induction members with
  | nil => exact .slnil
  | cons head tail hypothesis =>
      have rest := hypothesis fun member inTail => agree member (List.mem_cons_of_mem _ inTail)
      cases found : select head with
      | none =>
          rw [List.filterMap_cons_none found]
          exact rest.cons (label head)
      | some selected =>
          rw [List.filterMap_cons_some found, List.map_cons, List.map_cons,
            agree head List.mem_cons_self selected found]
          exact rest.cons_cons (label head)

/-- Collecting at most one member from each list keeps the order of the labels. -/
theorem map_filter_flatten_sublist
    {function : α → Except ε (List β)}
    {keep : β → Bool}
    {label : α → γ}
    {newLabel : β → γ}
    {members : List α}
    {lists : List (List β)}
    (mapped : members.mapM function = .ok lists)
    (agree : ∀ member ∈ members, ∀ list, function member = .ok list →
      ((list.filter keep).map newLabel).Sublist [label member]) :
    ((lists.flatten.filter keep).map newLabel).Sublist (members.map label) := by
  have results := mapM_eq_ok_iff.mp mapped
  induction results with
  | nil => exact .slnil
  | @cons member list members lists here there hypothesis =>
      have first := agree member List.mem_cons_self list here
      have rest := hypothesis (mapM_eq_ok_iff.mpr there)
        fun other inMembers => agree other (List.mem_cons_of_mem _ inMembers)
      rw [List.flatten_cons, List.filter_append, List.map_append]
      exact first.append rest

namespace Simplify

open ExactAlgebra.Expr

/-! ## Sums -/

/-- Settled terms that are no sums, with one constant at most and distinct parts,
make a settled sum. -/
theorem settled_sumOfTerms
    {terms : List Expr}
    (settled : ∀ term ∈ terms, Settled term)
    (flat : ∀ term ∈ terms, term.kind ≠ .sum)
    (oneConstant : (terms.filter (·.isNumber)).length ≤ 1)
    (nonzero : 0 ∉ terms)
    (distinct : ((terms.filter (!·.isNumber)).map fun term => (splitTerm term).1).Nodup) :
    Settled (sumOfTerms terms) := by
  match terms with
  | [] => exact .number 0
  | [term] => exact settled term List.mem_cons_self
  | first :: second :: others =>
      have perm := perm_arrange (first :: second :: others)
      refine .sum _ ?_ (pairwise_arrange _) ?_ ?_ ?_ ?_ ?_
      · rw [perm.length_eq]
        simp
      · intro term member
        exact settled term (perm.mem_iff.mp member)
      · intro term member
        exact flat term (perm.mem_iff.mp member)
      · rwa [(perm.filter _).length_eq]
      · intro member
        exact nonzero (perm.mem_iff.mp member)
      · exact ((perm.filter _).map _).nodup_iff.mpr distinct

/-- A constant and settled terms without constants, with distinct parts, make a
settled sum. -/
theorem settled_sumOfTerms_constant
    {terms : List Expr}
    (constant : Fraction)
    (settled : ∀ term ∈ terms, Settled term)
    (flat : ∀ term ∈ terms, term.kind ≠ .sum)
    (noConstants : ∀ term ∈ terms, term.isNumber = false)
    (distinct : (terms.map fun term => (splitTerm term).1).Nodup) :
    Settled (sumOfTerms (if constant = 0 then terms else number constant :: terms)) := by
  have noZero : 0 ∉ terms := fun member =>
    ne_number_of_isNumber_eq_false (noConstants 0 member) 0 rfl
  have constants : terms.filter (·.isNumber) = [] := filter_isNumber_eq_nil_iff.mpr noConstants
  have others : terms.filter (!·.isNumber) = terms := filter_not_isNumber_eq_self noConstants
  split
  · refine settled_sumOfTerms settled flat ?_ noZero ?_
    · rw [constants]
      exact Nat.zero_le 1
    · rwa [others]
  · rename_i nonzero
    refine settled_sumOfTerms ?_ ?_ ?_ ?_ ?_
    · exact List.forall_mem_cons.mpr ⟨.number constant, settled⟩
    · exact List.forall_mem_cons.mpr ⟨nofun, flat⟩
    · rw [List.filter_cons_of_pos rfl, constants]
      exact Nat.le_refl 1
    · rw [List.mem_cons, not_or]
      exact ⟨fun equal => nonzero (Expr.number.inj equal).symm, noZero⟩
    · rwa [List.filter_cons_of_neg (by simp [isNumber]), others]

/-- The terms that settled operands leave when they are collected. -/
theorem settled_of_collectedTerm?_eq_some
    {entry : Expr × Fraction}
    {term : Expr}
    (isPart : IsTermPart entry.1)
    (notNested : entry.2 = 1 → entry.1.kind ≠ .sum)
    (collected : collectedTerm? entry = some term) :
    Settled term ∧ term.kind ≠ .sum ∧ term.isNumber = false ∧ (splitTerm term).1 = entry.1 := by
  rcases cases_of_collectedTerm?_eq_some collected with
    ⟨isOne, rfl⟩ | ⟨nonzero, notOne, rfl⟩
  · refine ⟨isPart.settled, notNested isOne, isPart.isNumber_eq_false, ?_⟩
    rw [isPart.splitTerm_eq]
  · refine ⟨isPart.settled_scale nonzero notOne, ?_, ?_, ?_⟩
    · rw [isPart.scale_eq]
      exact nofun
    · rw [isPart.scale_eq]
      rfl
    · rw [isPart.splitTerm_scale]

/-- Collecting settled terms without losing weight gives a settled sum. -/
theorem settled_collectSum
    {operands : List Expr}
    (settled : ∀ operand ∈ operands, Settled operand)
    (flat : ∀ operand ∈ operands, operand.kind ≠ .sum)
    (heavy : weightAll operands + 1 ≤ (collectSum operands).weight) :
    Settled (collectSum operands) := by
  have parts : ∀ entry ∈ termTally operands, IsTermPart entry.1 := by
    refine forall_mem_termTally fun operand member notNumber => ?_
    obtain ⟨part, coefficient, isPart, split, _⟩ :=
      exists_isTermPart (settled operand member) notNumber
    rw [split]
    exact isPart
  have collected (entry : Expr × Fraction) (member : entry ∈ termTally operands) (term : Expr) :=
    @settled_of_collectedTerm?_eq_some entry term (parts entry member)
      (ne_sum_of_weight_le settled flat heavy member)
  have terms : ∀ term ∈ (termTally operands).filterMap collectedTerm?,
      Settled term ∧ term.kind ≠ .sum ∧ term.isNumber = false := by
    intro term member
    obtain ⟨entry, inTally, found⟩ := List.mem_filterMap.mp member
    obtain ⟨termSettled, notSum, notNumber, _⟩ := collected entry inTally term found
    exact ⟨termSettled, notSum, notNumber⟩
  unfold collectSum
  apply settled_sumOfTerms_constant
  · intro term member
    exact (terms term member).1
  · intro term member
    exact (terms term member).2.1
  · intro term member
    exact (terms term member).2.2
  · exact (map_filterMap_sublist fun entry member term found =>
      (collected entry member term found).2.2.2).nodup (Tally.nodup_keys_ofEntries _)

/-! ## Powers -/

/-- An irrational power of a constant with a positive exponent is settled. -/
theorem settled_power_number
    {value exponent : Fraction}
    (irrational : value.pow exponent = .ok none)
    (positive : 0 < exponent.num) :
    Settled (power (number value) exponent) := by
  refine .power _ _ (.number value) nofun ?_ ?_ ?_
  · exact Fraction.ne_zero_of_pow_eq_none irrational
  · exact Fraction.ne_one_of_pow_eq_none irrational
  · intro other equal
    cases equal
    exact ⟨positive, irrational⟩

/-- A power of a constant is a constant, or a settled power. A positive exponent
and its base are kept. -/
theorem numberPower_cases
    {value exponent : Fraction}
    {result : Expr}
    (success : numberPower value exponent = .ok result) :
    (∃ answer, result = number answer) ∨
      ∃ base kept,
        result = power (number base) kept ∧ Settled result ∧
          (0 < exponent.num → result = power (number value) exponent) := by
  unfold numberPower at success
  obtain ⟨found, mapped, rest⟩ := except_bind_eq_ok success
  have power := eq_ok_of_mapError_eq_ok mapped
  cases found with
  | some answer =>
      cases rest
      exact Or.inl ⟨answer, rfl⟩
  | none =>
      right
      dsimp only at rest
      split at rest
      · rename_i negative
        obtain ⟨inverse, inverted, last⟩ := except_bind_eq_ok rest
        cases last
        have irrational := Fraction.pow_opposite_of_reciprocal power negative
          (eq_ok_of_mapError_eq_ok inverted)
        refine ⟨inverse, -exponent, rfl, settled_power_number irrational ?_, fun positive => ?_⟩
        · rw [Fraction.num_neg]
          omega
        · omega
      · rename_i notNegative
        cases rest
        have nonzero : exponent.num ≠ 0 :=
          mt (Fraction.num_eq_zero_iff exponent).mp (Fraction.ne_zero_of_pow_eq_none power)
        exact ⟨value, exponent, rfl, settled_power_number power (by omega), fun _ => rfl⟩

/-- A settled base that is neither a power nor a constant has settled powers. -/
theorem settled_power
    {base : Expr}
    {exponent : Fraction}
    (settled : Settled base)
    (flat : base.kind ≠ .power)
    (notNumber : base.isNumber = false)
    (nonzero : exponent ≠ 0)
    (notOne : exponent ≠ 1) :
    Settled (power base exponent) := by
  refine .power _ _ settled flat nonzero notOne ?_
  intro value equal
  exact absurd equal (ne_number_of_isNumber_eq_false notNumber value)

/-- Raising a settled base gives a settled expression, unless the exponents of nested
powers are multiplied. That loses weight. -/
theorem settled_raise
    {base result : Expr}
    {exponent : Fraction}
    (settled : Settled base)
    (success : raise Expr.simplify base exponent = .ok result)
    (heavy : base.weight + 1 ≤ result.weight) :
    Settled result := by
  cases raisesTo_of_raise_eq_ok success with
  | zero => exact .number 1
  | one => exact settled
  | constant nonzero notOne found =>
      rcases numberPower_cases found with ⟨answer, rfl⟩ | ⟨_, _, _, settledPower, _⟩
      · exact .number answer
      · exact settledPower
  | nested nonzero notOne found =>
      have lighter := weight_simplify_le found
      simp only [weight] at lighter heavy
      omega
  | kept nonzero notOne notNumber flat => exact settled_power settled flat notNumber nonzero notOne

/-! ## Products -/

/-- Settled factors that are no products, with one constant at most, which is neither
zero nor one, and distinct bases make a settled product. -/
theorem settled_productOfFactors
    {factors : List Expr}
    (settled : ∀ factor ∈ factors, Settled factor)
    (flat : ∀ factor ∈ factors, factor.kind ≠ .product)
    (oneConstant : (factors.filter (·.isNumber)).length ≤ 1)
    (nonzero : 0 ∉ factors)
    (notOne : 1 ∉ factors)
    (distinct : ((factors.filter (!·.isNumber)).map fun factor => (splitFactor factor).1).Nodup) :
    Settled (productOfFactors factors) := by
  match factors with
  | [] => exact .number 1
  | [factor] => exact settled factor List.mem_cons_self
  | first :: second :: others =>
      have perm := perm_arrange (first :: second :: others)
      refine .product _ ?_ (pairwise_arrange _) ?_ ?_ ?_ ?_ ?_ ?_
      · rw [perm.length_eq]
        simp
      · intro factor member
        exact settled factor (perm.mem_iff.mp member)
      · intro factor member
        exact flat factor (perm.mem_iff.mp member)
      · rwa [(perm.filter _).length_eq]
      · intro member
        exact nonzero (perm.mem_iff.mp member)
      · intro member
        exact notOne (perm.mem_iff.mp member)
      · exact ((perm.filter _).map _).nodup_iff.mpr distinct

/-- A coefficient and settled factors without constants, with distinct bases, make a
settled product. -/
theorem settled_assembleProduct
    {factors : List Expr}
    (coefficient : Fraction)
    (settled : ∀ factor ∈ factors, Settled factor)
    (flat : ∀ factor ∈ factors, factor.kind ≠ .product)
    (noConstants : ∀ factor ∈ factors, factor.isNumber = false)
    (distinct : (factors.map fun factor => (splitFactor factor).1).Nodup) :
    Settled (assembleProduct coefficient factors) := by
  have noNumber (value : Fraction) : number value ∉ factors := fun member =>
    ne_number_of_isNumber_eq_false (noConstants _ member) value rfl
  have constants : factors.filter (·.isNumber) = [] := filter_isNumber_eq_nil_iff.mpr noConstants
  have others : factors.filter (!·.isNumber) = factors := filter_not_isNumber_eq_self noConstants
  unfold assembleProduct
  split
  · exact .number 0
  · rename_i nonzero
    split
    · refine settled_productOfFactors settled flat ?_ (noNumber 0) (noNumber 1) ?_
      · rw [constants]
        exact Nat.zero_le 1
      · rwa [others]
    · rename_i notOne
      have absent {value : Fraction} (differ : coefficient ≠ value) :
          number value ∉ factors ++ [number coefficient] := by
        rw [List.mem_append, List.mem_singleton, not_or]
        exact ⟨noNumber value, fun equal => differ (Expr.number.inj equal).symm⟩
      refine settled_productOfFactors ?_ ?_ ?_ (absent nonzero) (absent notOne) ?_
      · exact List.forall_mem_append.mpr ⟨settled, by simpa using Settled.number coefficient⟩
      · exact List.forall_mem_append.mpr ⟨flat, by simp [kind]⟩
      · rw [List.filter_append, constants]
        exact Nat.le_refl 1
      · rw [List.filter_append, others]
        simpa [isNumber] using distinct

/-- A settled base with an exponent other than zero and one is a constant, or a
settled power. -/
theorem simplify_power_cases
    {base result : Expr}
    {exponent : Fraction}
    (isPart : IsBasePart base exponent)
    (nonzero : exponent ≠ 0)
    (notOne : exponent ≠ 1)
    (success : (power base exponent).simplify = .ok result) :
    (∃ answer, result = number answer) ∨ (result = power base exponent ∧ Settled result) := by
  rw [simplify_eq_step, step, isPart.settled.simplify_eq] at success
  change raise Expr.simplify base exponent = _ at success
  cases raisesTo_of_raise_eq_ok success with
  | zero _ isZero => exact absurd isZero nonzero
  | one _ isOne => exact absurd isOne notOne
  | constant _ _ found =>
      rcases numberPower_cases found with constant | ⟨_, _, _, settled, kept⟩
      · exact Or.inl constant
      · exact Or.inr ⟨kept (isPart.positive rfl), settled⟩
  | nested => exact absurd rfl isPart.flat
  | kept _ _ notNumber flat =>
      exact Or.inr ⟨rfl, settled_power isPart.settled flat notNumber nonzero notOne⟩

/-- What a tallied exponent leaves is settled, and is a constant or a power of its
base. -/
theorem settled_of_collectedFactor_eq_ok
    {entry : Expr × Fraction}
    {factors : List Expr}
    (isPart : IsBasePart entry.1 entry.2)
    (notNested : entry.2 = 1 → entry.1.kind ≠ .product)
    (collected : collectedFactor Expr.simplify entry = .ok factors) :
    (∀ factor ∈ factors, Settled factor ∧ factor.kind ≠ .product) ∧
      ((factors.filter (!·.isNumber)).map fun factor => (splitFactor factor).1).Sublist
        [entry.1] := by
  cases collectsTo_of_collectedFactor_eq_ok collected with
  | zero => exact ⟨nofun, List.nil_sublist _⟩
  | one isOne =>
      refine ⟨by simpa using ⟨isPart.settled, notNested isOne⟩, ?_⟩
      have sublist := (@List.filter_sublist _ (!·.isNumber) [entry.1]).map
        fun factor => (splitFactor factor).1
      rwa [List.map_singleton, splitFactor_of_kind_ne isPart.flat] at sublist
  | power nonzero notOne found =>
      rcases simplify_power_cases isPart nonzero notOne found with
        ⟨answer, rfl⟩ | ⟨rfl, settled⟩
      · exact ⟨by simpa [kind] using Settled.number answer, List.nil_sublist _⟩
      · exact ⟨by simpa [kind] using settled, List.Sublist.refl _⟩

/-- Collecting settled factors without losing weight gives a settled product. -/
theorem settled_collectProduct
    {operands : List Expr}
    {result : Expr}
    (settled : ∀ operand ∈ operands, Settled operand)
    (flat : ∀ operand ∈ operands, operand.kind ≠ .product)
    (success : collectProduct Expr.simplify operands = .ok result)
    (heavy : weightAll operands + 1 ≤ result.weight) :
    Settled result := by
  have parts : ∀ entry ∈ factorTally operands, IsBasePart entry.1 entry.2 := by
    intro entry member
    refine Tally.forall_mem_ofEntries ?_ (fun _ _ _ => IsBasePart.add) member
    intro given inGiven
    obtain ⟨operand, inOperands, rfl⟩ := List.mem_map.mp inGiven
    have both := List.mem_filter.mp inOperands
    exact isBasePart_splitFactor (settled operand both.1) (by simpa using both.2)
  have notNested : ∀ entry ∈ factorTally operands, entry.2 = 1 → entry.1.kind ≠ .product :=
    fun _ => ne_product_of_weight_le flat success heavy
  have each {entry : Expr × Fraction} (member : entry ∈ factorTally operands)
      {factors : List Expr} :=
    @settled_of_collectedFactor_eq_ok entry factors (parts entry member) (notNested entry member)
  cases multipliesTo_of_collectProduct_eq_ok success with
  | zero => exact .number 0
  | @assembled collected nonzero mapped =>
      have factors : ∀ factor ∈ collected.flatten.filter (!·.isNumber),
          Settled factor ∧ factor.kind ≠ .product := by
        intro factor member
        obtain ⟨_, entry, inTally, list, found, inList⟩ := exists_of_mem_collected mapped member
        exact (each inTally found).1 factor inList
      apply settled_assembleProduct
      · exact fun factor member => (factors factor member).1
      · exact fun factor member => (factors factor member).2
      · exact fun factor member => (exists_of_mem_collected mapped member).1
      · exact (map_filter_flatten_sublist mapped fun _ member _ found =>
          (each member found).2).nodup (Tally.nodup_keys_ofEntries _)

end Simplify

namespace Expr

/-! ## The settled results -/

/-- Simplification that loses no weight gives a settled expression. -/
theorem settled_of_weight_le
    {expr result : Expr}
    (success : expr.simplify = .ok result)
    (heavy : expr.weight ≤ result.weight) :
    Settled result := by
  induction expr generalizing result with
  | number value =>
      rw [simplify_eq_step] at success
      cases success
      exact .number value
  | symbol name =>
      rw [simplify_eq_step] at success
      cases success
      exact .symbol name
  | sum operands hypothesis =>
      rw [simplify_eq_step] at success
      obtain ⟨simplified, mapped, last⟩ := except_bind_eq_ok success
      cases last
      have lighter := Simplify.weightAll_le_of_mapM_eq_ok lightening_simplify mapped
      have spliced := weightAll_flatMap_le weightAll_summands_le simplified
      have total := Simplify.weight_collectSum_le (simplified.flatMap summands)
      rw [weight] at heavy
      have flat := flat_of_weightAll_le weightAll_summands_le weightAll_summands_lt
        (show weightAll simplified ≤ weightAll (simplified.flatMap summands) by omega)
      have settled := forall_mem_of_weightAll_le mapped (by omega)
        fun operand member _ => hypothesis operand member
      rw [flatMap_summands_eq_self flat] at heavy total ⊢
      exact Simplify.settled_collectSum settled flat (by omega)
  | product operands hypothesis =>
      rw [simplify_eq_step] at success
      obtain ⟨simplified, mapped, last⟩ := except_bind_eq_ok success
      have lighter := Simplify.weightAll_le_of_mapM_eq_ok lightening_simplify mapped
      have spliced := weightAll_flatMap_le weightAll_factors_le simplified
      have total := Simplify.weight_collectProduct_le lightening_simplify last
      rw [weight] at heavy
      have flat := flat_of_weightAll_le weightAll_factors_le weightAll_factors_lt
        (show weightAll simplified ≤ weightAll (simplified.flatMap factors) by omega)
      have settled := forall_mem_of_weightAll_le mapped (by omega)
        fun operand member _ => hypothesis operand member
      rw [flatMap_factors_eq_self flat] at last
      exact Simplify.settled_collectProduct settled flat last (by omega)
  | power base exponent hypothesis =>
      rw [simplify_eq_step] at success
      obtain ⟨simplified, part, last⟩ := except_bind_eq_ok success
      have inner := weight_simplify_le part
      have total := Simplify.weight_raise_le lightening_simplify last
      rw [weight] at heavy
      exact Simplify.settled_raise (hypothesis part (by omega)) last (by omega)

/-- The expressions that simplification leaves as they are are the settled ones. -/
theorem simplify_eq_self_iff {expr : Expr} : expr.simplify = .ok expr ↔ Settled expr :=
  ⟨fun fixed => settled_of_weight_le fixed (Nat.le_refl _), Settled.simplify_eq⟩

/-- Simplifying a second time succeeds and changes nothing exactly when simplifying
once gave a settled expression. -/
theorem simplify_bind_simplify_eq_iff (expr : Expr) :
    (expr.simplify >>= simplify) = expr.simplify ↔
      ∀ result, expr.simplify = .ok result → Settled result := by
  cases simplified : expr.simplify with
  | error cause =>
      refine ⟨fun _ result success => ?_, fun _ => rfl⟩
      cases success
  | ok result =>
      change result.simplify = .ok result ↔ _
      rw [simplify_eq_self_iff]
      refine ⟨fun settled other equal => ?_, fun settled => settled result rfl⟩
      cases equal
      exact settled

/-- The product of `z` with the square and the inverse of the product `x * y`. -/
def powersOfProduct : Expr :=
  productOf [power (productOf [symbol .x, symbol .y]) (.ofInt 2),
    power (productOf [symbol .x, symbol .y]) (.ofInt (-1)), symbol .z]

/-- The exponents of `x * y` add up to one, which leaves a product among the factors.
Only the second simplification splices it in. -/
theorem simplify_simplify_powersOfProduct_ne :
    WellFormed powersOfProduct ∧
      ∃ once twice,
        powersOfProduct.simplify = .ok once ∧ once.simplify = .ok twice ∧ twice ≠ once := by
  refine ⟨?_, product [symbol .z, product [symbol .x, symbol .y]],
    product [symbol .x, symbol .y, symbol .z], by decide +kernel, by decide +kernel, by decide⟩
  have inner (exponent : Fraction) :
      WellFormed (power (productOf [symbol .x, symbol .y]) exponent) := by
    refine .power _ _ (.productOf (Nat.le_refl 2) ?_)
    simp only [List.forall_mem_cons, WellFormed.symbol, true_and]
    exact List.forall_mem_nil _
  refine .productOf (by decide) ?_
  simp only [List.forall_mem_cons, WellFormed.symbol, inner, true_and]
  exact List.forall_mem_nil _

end Expr
end ExactAlgebra
