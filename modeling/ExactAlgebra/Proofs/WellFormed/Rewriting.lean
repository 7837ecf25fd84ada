import ExactAlgebra.Proofs.Derivative.Value
import ExactAlgebra.Proofs.Polynomial.Expanded
import ExactAlgebra.Proofs.Tally
import ExactAlgebra.Proofs.WellFormed.Agreement

/-!
# Rewriting keeps expressions well formed

On a well-formed expression every pass succeeds with all its checks where it
succeeds without them, and the result is well formed. Each construction has to be
given at least two operands: a sum or a product that is taken apart has that many, a
list of terms or factors that is put together again may have any length, and the few
other constructions count their operands.
-/

namespace ExactAlgebra
namespace Checked

open ExactAlgebra.Expr ExactAlgebra.Workbench

/-! ## Simplification -/

theorem agrees_splitTerm {term : Expr} (wellFormed : WellFormed term) :
    Agrees (fun entry => WellFormed entry.1) (splitTerm term) (.ok (Simplify.splitTerm term)) := by
  unfold splitTerm
  split
  · rename_i coefficient rest
    cases wellFormed with
    | product operands several ordered parts =>
        have nonempty : rest ≠ [] := by
          rintro rfl
          simp at several
        have factors := agrees_productOfSome nonempty
          fun factor member => parts factor (List.mem_cons_of_mem _ member)
        exact factors.bind_ok fun key => .ok key
  · rename_i notScaled
    have alone : Simplify.splitTerm term = (term, 1) := by
      unfold Simplify.splitTerm
      split
      · rename_i coefficient rest
        exact absurd rfl (notScaled coefficient rest)
      · rfl
    rw [alone]
    exact .ok wellFormed

theorem agrees_scale
    (coefficient : Fraction)
    {term : Expr}
    (wellFormed : WellFormed term) :
    Agrees WellFormed (scale coefficient term) (.ok (Simplify.scale coefficient term)) := by
  have pair : Agrees WellFormed (productOf [number coefficient, term])
      (.ok (Expr.productOf [number coefficient, term])) :=
    agrees_productOf (by simp) (by simp [wellFormed, WellFormed.number])
  cases term with
  | product operands =>
      cases wellFormed with
      | product _ several _ parts =>
          refine agrees_productOf ?_ (List.forall_mem_append.mpr ⟨parts, ?_⟩)
          · rw [List.length_append]
            omega
          · exact List.forall_mem_singleton.mpr (.number coefficient)
  | _ => exact pair

theorem agrees_collectedTerm?
    {entry : Expr × Fraction}
    (wellFormed : WellFormed entry.1) :
    Agrees (∀ term ∈ ·, WellFormed term) (collectedTerm? entry)
      (.ok (Simplify.collectedTerm? entry)) := by
  unfold collectedTerm? Simplify.collectedTerm?
  split
  · exact .ok nofun
  · split
    · exact .ok fun term found => Option.some.inj found ▸ wellFormed
    · exact (agrees_scale entry.2 wellFormed).bind_ok fun scaled =>
        .ok fun term found => Option.some.inj found ▸ scaled

theorem agrees_collectSum
    {operands : List Expr}
    (wellFormed : ∀ operand ∈ operands, WellFormed operand) :
    Agrees WellFormed (collectSum operands) (.ok (Simplify.collectSum operands)) := by
  have entries := Agrees.mapM_ok fun operand (member : operand ∈ operands.filter (!·.isNumber)) =>
    agrees_splitTerm (wellFormed operand (List.mem_filter.mp member).1)
  refine entries.bind_ok fun keys => ?_
  have terms := Agrees.mapM_ok fun entry (member : entry ∈ Simplify.termTally operands) =>
    agrees_collectedTerm? (Tally.forall_key_of_mem_ofEntries keys member)
  refine terms.bind_ok fun collected => ?_
  have kept : ∀ term ∈ (Simplify.termTally operands).filterMap Simplify.collectedTerm?,
      WellFormed term := by
    intro term member
    obtain ⟨entry, inTally, found⟩ := List.mem_filterMap.mp member
    exact collected _ (List.mem_map_of_mem inTally) term found
  rw [List.filterMap_map, Function.id_comp]
  refine agrees_sumOfTerms ?_
  split
  · exact kept
  · exact List.forall_mem_cons.mpr ⟨.number _, kept⟩

theorem agrees_assembleProduct
    (coefficient : Fraction)
    {operands : List Expr}
    (wellFormed : ∀ operand ∈ operands, WellFormed operand) :
    Agrees WellFormed (assembleProduct coefficient operands)
      (.ok (Simplify.assembleProduct coefficient operands)) := by
  unfold assembleProduct Simplify.assembleProduct
  split
  · exact .ok (.number 0)
  · split
    · exact agrees_productOfFactors wellFormed
    · refine agrees_productOfFactors (List.forall_mem_append.mpr ⟨wellFormed, ?_⟩)
      exact List.forall_mem_singleton.mpr (.number coefficient)

theorem wellFormed_splitFactor {factor : Expr} (wellFormed : WellFormed factor) :
    WellFormed (Simplify.splitFactor factor).1 := by
  cases factor with
  | power base exponent =>
      cases wellFormed with
      | power _ _ inner => exact inner
  | _ => exact wellFormed

/-- On well-formed expressions the checked function agrees with the plain one. -/
def AgreesOnWellFormed
    (checked : Expr → Outcome Expr)
    (plain : Expr → Except RewriteError Expr) : Prop :=
  ∀ expr, WellFormed expr → Agrees WellFormed (checked expr) (plain expr)

section Parts

variable {checkedPart : Expr → Outcome Expr} {plainPart : Expr → Except RewriteError Expr}

theorem agrees_collectedFactor
    (parts : AgreesOnWellFormed checkedPart plainPart)
    {entry : Expr × Fraction}
    (wellFormed : WellFormed entry.1) :
    Agrees (∀ factor ∈ ·, WellFormed factor) (collectedFactor checkedPart entry)
      (Simplify.collectedFactor plainPart entry) := by
  unfold collectedFactor Simplify.collectedFactor
  split
  · split
    · exact .error .zeroToTheZero
    · exact .ok nofun
  · split
    · exact .ok (List.forall_mem_singleton.mpr wellFormed)
    · exact (parts _ (.power _ _ wellFormed)).bind fun factor factorWellFormed =>
        .ok (List.forall_mem_singleton.mpr factorWellFormed)

theorem agrees_collectProduct
    (parts : AgreesOnWellFormed checkedPart plainPart)
    {operands : List Expr}
    (wellFormed : ∀ operand ∈ operands, WellFormed operand) :
    Agrees WellFormed (collectProduct checkedPart operands)
      (Simplify.collectProduct plainPart operands) := by
  have bases : ∀ entry ∈ Simplify.factorTally operands, WellFormed entry.1 := by
    refine fun entry => Tally.forall_key_of_mem_ofEntries fun given inGiven => ?_
    obtain ⟨operand, inOperands, rfl⟩ := List.mem_map.mp inGiven
    exact wellFormed_splitFactor (wellFormed operand (List.mem_filter.mp inOperands).1)
  unfold collectProduct Simplify.collectProduct
  dsimp only
  split
  · exact .ok (.number 0)
  · refine (Agrees.mapM fun entry member => agrees_collectedFactor parts (bases entry member)).bind
      fun collected factors => ?_
    refine agrees_assembleProduct _ fun factor member => ?_
    obtain ⟨list, inCollected, inList⟩ := List.mem_flatten.mp (List.mem_filter.mp member).1
    exact factors.2 list inCollected factor inList

theorem agrees_checkZeroExponent (base : Expr) :
    Agrees (fun _ => True) ((checkZeroExponent base).mapError .rewrite) (checkZeroExponent base) :=
  .of_unchecked fun _ _ => trivial

theorem wellFormed_numberPower
    {value exponent : Fraction}
    {result : Expr}
    (success : Simplify.numberPower value exponent = .ok result) :
    WellFormed result := by
  unfold Simplify.numberPower at success
  obtain ⟨found, _, rest⟩ := except_bind_eq_ok success
  cases found with
  | some answer =>
      cases rest
      exact .number answer
  | none =>
      dsimp only at rest
      split at rest
      · obtain ⟨inverse, _, last⟩ := except_bind_eq_ok rest
        cases last
        exact .power _ _ (.number inverse)
      · cases rest
        exact .power _ _ (.number value)

theorem agrees_raise
    (parts : AgreesOnWellFormed checkedPart plainPart)
    {base : Expr}
    (exponent : Fraction)
    (wellFormed : WellFormed base) :
    Agrees WellFormed (raise checkedPart base exponent)
      (Simplify.raise plainPart base exponent) := by
  unfold raise Simplify.raise
  split
  · exact (agrees_checkZeroExponent base).bind fun _ _ => .ok (.number 1)
  · split
    · exact .ok wellFormed
    · cases base with
      | number value => exact .of_unchecked fun result => wellFormed_numberPower
      | power inner innerExponent =>
          cases wellFormed with
          | power _ _ innerWellFormed => exact parts _ (.power _ _ innerWellFormed)
      | _ => exact .ok (.power _ _ wellFormed)

/-- A checked step agrees with the plain one if they simplify parts in agreement. -/
theorem agreesOnWellFormed_simplifyStep (parts : AgreesOnWellFormed checkedPart plainPart) :
    AgreesOnWellFormed (simplifyStep checkedPart) (Simplify.step plainPart) := by
  intro expr wellFormed
  cases wellFormed with
  | number value => exact .ok (.number value)
  | symbol name => exact .ok (.symbol name)
  | sum operands several ordered terms =>
      exact (Agrees.mapM fun operand member => parts operand (terms operand member)).bind
        fun simplified simplifiedWellFormed =>
          agrees_collectSum (wellFormed_flatMap_summands simplifiedWellFormed.2).2
  | product operands several ordered factors =>
      refine (Agrees.mapM fun operand member => parts operand (factors operand member)).bind
        fun simplified simplifiedWellFormed => agrees_collectProduct parts ?_
      intro factor member
      obtain ⟨part, inSimplified, inFactors⟩ := List.mem_flatMap.mp member
      exact wellFormed_factors (simplifiedWellFormed.2 part inSimplified) factor inFactors
  | power base exponent inner =>
      exact (parts base inner).bind fun simplified simplifiedWellFormed =>
        agrees_raise parts exponent simplifiedWellFormed

end Parts

theorem agreesOnWellFormed_simplifyToDepth (depth : Nat) :
    AgreesOnWellFormed (simplifyToDepth depth) (Simplify.toDepth depth) := by
  induction depth with
  | zero => exact fun expr wellFormed => .ok wellFormed
  | succ depth hypothesis => exact agreesOnWellFormed_simplifyStep hypothesis

theorem agreesOnWellFormed_simplify : AgreesOnWellFormed simplify Expr.simplify :=
  fun expr => agreesOnWellFormed_simplifyToDepth (expr.weight + 1) expr

/-! ## Expansion -/

theorem agrees_distribute
    {left right : Expr}
    (leftWellFormed : WellFormed left)
    (rightWellFormed : WellFormed right) :
    Agrees WellFormed (distribute left right) (.ok (Expand.distribute left right)) := by
  have products := Agrees.mapM_ok fun pair (member : pair ∈ left.summands.flatMap fun leftTerm =>
      right.summands.map fun rightTerm => [leftTerm, rightTerm]) => by
    obtain ⟨leftTerm, inLeft, inRow⟩ := List.mem_flatMap.mp member
    obtain ⟨rightTerm, inRight, rfl⟩ := List.mem_map.mp inRow
    have leftPart := (wellFormed_summands leftWellFormed).2 leftTerm inLeft
    have rightPart := (wellFormed_summands rightWellFormed).2 rightTerm inRight
    exact agrees_productOf (by simp) (by simp [leftPart, rightPart])
  refine products.bind_ok fun terms => ?_
  have sum := agrees_sumOfTerms terms
  simp only [List.map_flatMap, List.map_map] at sum ⊢
  exact sum

theorem agrees_distributeAll
    {operands : List Expr}
    (wellFormed : ∀ operand ∈ operands, WellFormed operand) :
    Agrees WellFormed (distributeAll operands) (.ok (Expand.distributeAll operands)) := by
  cases operands with
  | nil => exact .ok (.number 1)
  | cons first others =>
      rw [distributeAll, Expand.distributeAll]
      obtain ⟨firstWellFormed, othersWellFormed⟩ := List.forall_mem_cons.mp wellFormed
      clear wellFormed
      induction others generalizing first with
      | nil => exact .ok firstWellFormed
      | cons second others hypothesis =>
          obtain ⟨secondWellFormed, rest⟩ := List.forall_mem_cons.mp othersWellFormed
          rw [List.foldlM_cons, List.foldl_cons]
          exact (agrees_distribute firstWellFormed secondWellFormed).bind_ok
            fun product => hypothesis _ product rest

/-- A selection is as long as it is asked to be. -/
theorem length_of_mem_selections
    {choices : List α}
    {count : Nat}
    {selection : List α}
    (selected : selection ∈ Expand.selections choices count) :
    selection.length = count := by
  induction count generalizing selection with
  | zero => rw [List.mem_singleton.mp selected, List.length_nil]
  | succ count hypothesis =>
      obtain ⟨first, _, rest⟩ := List.mem_flatMap.mp selected
      obtain ⟨others, othersSelected, rfl⟩ := List.mem_map.mp rest
      rw [List.length_cons, hypothesis othersSelected]

theorem agrees_repeated
    {count : Nat}
    (positive : 0 < count)
    {base : Expr}
    (wellFormed : WellFormed base) :
    Agrees WellFormed (repeated count base) (.ok (Expand.repeated count base)) := by
  have copies : Agrees WellFormed
      (if 1 < count then productOf (List.replicate count base) else .ok base)
      (.ok (Expr.productOfFactors (List.replicate count base))) := by
    match count, positive with
    | 1, _ => exact .ok wellFormed
    | count + 2, _ =>
        rw [if_pos (by omega)]
        refine agrees_productOf (by simp) fun factor member => ?_
        exact List.eq_of_mem_replicate member ▸ wellFormed
  cases base with
  | sum operands =>
      have parts := (wellFormed_summands wellFormed).2
      have products := Agrees.mapM_ok fun selection
          (member : selection ∈ Expand.selections operands count) => by
        have nonempty : selection ≠ [] := by
          rintro rfl
          rw [← length_of_mem_selections member] at positive
          exact Nat.lt_irrefl 0 positive
        exact agrees_productOfSome nonempty fun factor chosen =>
          parts factor (Expand.mem_of_mem_selections member factor chosen)
      exact products.bind_ok agrees_sumOfTerms
  | _ => exact copies

theorem agrees_unroll
    {base : Expr}
    {exponent : Fraction}
    (nonzero : exponent ≠ 0)
    (wellFormed : WellFormed base) :
    Agrees WellFormed (unroll base exponent) (.ok (Expand.unroll base exponent)) := by
  have numNonzero : exponent.num ≠ 0 := mt (Fraction.num_eq_zero_iff exponent).mp nonzero
  have unrolled := agrees_repeated (Int.natAbs_pos.mpr numNonzero) wellFormed
  refine unrolled.bind_ok fun result => .ok ?_
  split
  · exact result
  · exact .power _ _ result

theorem expandAll_eq_mapM (operands : List Expr) : expandAll operands = operands.mapM expand := by
  induction operands with
  | nil => rfl
  | cons operand operands hypothesis => rw [expandAll, List.mapM_cons, hypothesis]

theorem agreesOnWellFormed_expand : AgreesOnWellFormed expand Expr.expand := by
  intro expr wellFormed
  induction wellFormed with
  | number value => rw [expand, Expr.expand]; exact .ok (.number value)
  | symbol name => rw [expand, Expr.expand]; exact .ok (.symbol name)
  | sum operands several ordered parts hypothesis =>
      rw [expand, Expr.expand, expandAll_eq_mapM, Expr.expandAll_eq_mapM]
      refine (Agrees.mapM hypothesis).bind fun expanded expandedWellFormed => ?_
      obtain ⟨longer, terms⟩ := wellFormed_flatMap_summands expandedWellFormed.2
      exact agrees_sumOf (by omega) terms
  | product operands several ordered parts hypothesis =>
      rw [expand, Expr.expand, expandAll_eq_mapM, Expr.expandAll_eq_mapM]
      exact (Agrees.mapM hypothesis).bind fun expanded expandedWellFormed =>
        agrees_distributeAll expandedWellFormed.2
  | power base exponent inner hypothesis =>
      rw [expand, Expr.expand]
      split
      · exact (agrees_checkZeroExponent base).bind fun _ _ => .ok (.number 1)
      · rename_i nonzero
        refine hypothesis.bind fun expanded expandedWellFormed => ?_
        split
        · exact .ok expandedWellFormed
        · exact agrees_unroll nonzero expandedWellFormed

/-! ## Derivatives -/

@[simp] theorem length_picks (members : List α) :
    (Derivative.picks members).length = members.length := by
  induction members with
  | nil => rfl
  | cons first others hypothesis => simp [Derivative.picks, hypothesis]

/-- A pick leaves all members but one. -/
theorem length_of_mem_picks
    {members : List α}
    {pick : α × List α}
    (picked : pick ∈ Derivative.picks members) :
    pick.2.length + 1 = members.length := by
  induction members generalizing pick with
  | nil => cases picked
  | cons first others hypothesis =>
      rw [Derivative.picks, List.mem_cons, List.mem_map] at picked
      rcases picked with rfl | ⟨inner, innerPicked, rfl⟩
      · rfl
      · exact congrArg Nat.succ (hypothesis innerPicked)

/-- Operands are constant or vary. -/
theorem length_constants_add_length_varying (pairs : List (Expr × Expr)) :
    (pairs.filter fun pair => pair.2 = 0).length + (pairs.filter fun pair => pair.2 ≠ 0).length =
      pairs.length := by
  simp only [ne_eq, decide_not]
  exact (List.length_eq_length_filter_add _).symm

/-- The terms of the product rule for several varying operands. -/
theorem agrees_productRule_term
    {varying : List (Expr × Expr)}
    {constants : List Expr}
    (several : 2 ≤ varying.length)
    (varyingWellFormed : ∀ pair ∈ varying, WellFormed pair.1 ∧ WellFormed pair.2)
    (constantsWellFormed : ∀ factor ∈ constants, WellFormed factor)
    {pick : (Expr × Expr) × List (Expr × Expr)}
    (picked : pick ∈ Derivative.picks varying) :
    Agrees WellFormed (productOf (pick.2.map Prod.fst ++ pick.1.2 :: constants))
      (.ok (Expr.productOf (pick.2.map Prod.fst ++ pick.1.2 :: constants))) := by
  have othersLength := length_of_mem_picks picked
  obtain ⟨pickedMember, otherMembers⟩ := Derivative.mem_of_mem_picks picked
  refine agrees_productOf ?_ fun factor member => ?_
  · simp only [List.length_append, List.length_map, List.length_cons]
    omega
  · rcases List.mem_append.mp member with isOther | isRest
    · obtain ⟨other, inOthers, rfl⟩ := List.mem_map.mp isOther
      exact (varyingWellFormed other (otherMembers other inOthers)).1
    · rcases List.mem_cons.mp isRest with isDerivative | isConstant
      · exact isDerivative ▸ (varyingWellFormed pick.1 pickedMember).2
      · exact constantsWellFormed factor isConstant

theorem agrees_productRule
    {pairs : List (Expr × Expr)}
    (several : 2 ≤ pairs.length)
    (wellFormed : ∀ pair ∈ pairs, WellFormed pair.1 ∧ WellFormed pair.2) :
    Agrees WellFormed (productRule pairs) (.ok (Derivative.productRule pairs)) := by
  have lengths := length_constants_add_length_varying pairs
  have constants : ∀ factor ∈ (pairs.filter fun pair => pair.2 = 0).map Prod.fst,
      WellFormed factor := by
    intro factor member
    obtain ⟨pair, inPairs, rfl⟩ := List.mem_map.mp member
    exact (wellFormed pair (List.mem_filter.mp inPairs).1).1
  have varyingWellFormed : ∀ pair ∈ pairs.filter fun pair => pair.2 ≠ 0,
      WellFormed pair.1 ∧ WellFormed pair.2 :=
    fun pair member => wellFormed pair (List.mem_filter.mp member).1
  unfold productRule Derivative.productRule
  dsimp only
  generalize (pairs.filter fun pair => pair.2 ≠ 0) = varying at lengths varyingWellFormed ⊢
  -- With one varying operand there is a constant, since there are two operands in all.
  match varying with
  | [] => exact .ok (.number 0)
  | [(operand, derivative)] =>
      refine agrees_productOf ?_ fun factor member => ?_
      · simp only [List.length_append, List.length_map, List.length_singleton] at lengths ⊢
        omega
      · rcases List.mem_append.mp member with isConstant | isDerivative
        · exact constants factor isConstant
        · rw [List.mem_singleton.mp isDerivative]
          exact (varyingWellFormed _ List.mem_cons_self).2
  | first :: second :: others =>
      have terms := Agrees.mapM_ok fun pick
          (picked : pick ∈ Derivative.picks (first :: second :: others)) =>
        agrees_productRule_term (by simp) varyingWellFormed constants picked
      exact terms.bind_ok fun wellFormedTerms => agrees_sumOf (by simp) wellFormedTerms

theorem agrees_powerRule
    {base inner : Expr}
    (exponent : Fraction)
    (baseWellFormed : WellFormed base)
    (innerWellFormed : WellFormed inner) :
    Agrees WellFormed (powerRule base exponent inner)
      (.ok (Derivative.powerRule base exponent inner)) := by
  have lowered : WellFormed (power base (exponent - 1)) := .power _ _ baseWellFormed
  unfold powerRule Derivative.powerRule
  split
  · exact .ok (.number 0)
  · split
    · exact agrees_productOf (by simp) (by simp [WellFormed.number, lowered])
    · exact agrees_productOf (by simp) (by simp [WellFormed.number, lowered, innerWellFormed])

theorem derivatives_eq_mapM (target : Symbol) (operands : List Expr) :
    derivatives target operands = operands.mapM (derivative target) := by
  induction operands with
  | nil => rfl
  | cons operand operands hypothesis => rw [derivatives, List.mapM_cons, hypothesis]

theorem agreesOnWellFormed_derivative (target : Symbol) :
    AgreesOnWellFormed (derivative target) fun expr => .ok (expr.derivative target) := by
  intro expr wellFormed
  beta_reduce
  induction wellFormed with
  | number value => rw [derivative, Expr.derivative]; exact .ok (.number 0)
  | symbol name =>
      rw [derivative, Expr.derivative]
      split
      · exact .ok (.number 1)
      · exact .ok (.number 0)
  | sum operands several ordered parts hypothesis =>
      rw [derivative, Expr.derivative, derivatives_eq_mapM, Derivative.derivatives_eq_map]
      refine (Agrees.mapM_ok hypothesis).bind_ok fun found => agrees_sumOfTerms fun term member => ?_
      exact found term (List.mem_filter.mp member).1
  | product operands several ordered parts hypothesis =>
      rw [derivative, Expr.derivative, derivatives_eq_mapM, Derivative.derivatives_eq_map]
      refine (Agrees.mapM_ok hypothesis).bind_ok fun found => agrees_productRule ?_ ?_
      · simpa using several
      · intro pair member
        obtain ⟨inOperands, inFound⟩ := List.of_mem_zip member
        exact ⟨parts _ inOperands, found _ inFound⟩
  | power base exponent inner hypothesis =>
      rw [derivative, Expr.derivative]
      split
      · exact .ok (.number 0)
      · split
        · exact hypothesis
        · exact hypothesis.bind_ok fun derivativeWellFormed =>
            agrees_powerRule exponent inner derivativeWellFormed

/-- On a well-formed expression no pass refuses to build a sum or a product. -/
theorem agreesOnWellFormed_apply (pass : Pass) : AgreesOnWellFormed (apply pass) pass.apply := by
  cases pass with
  | simplify => exact agreesOnWellFormed_simplify
  | expand => exact agreesOnWellFormed_expand
  | differentiate target => exact agreesOnWellFormed_derivative target

end Checked

/-- Simplifying keeps expressions well formed. -/
theorem Expr.WellFormed.of_simplify_eq_ok
    {expr result : Expr}
    (wellFormed : WellFormed expr)
    (success : expr.simplify = .ok result) :
    WellFormed result :=
  (Checked.agreesOnWellFormed_simplify expr wellFormed).meets result success

end ExactAlgebra
