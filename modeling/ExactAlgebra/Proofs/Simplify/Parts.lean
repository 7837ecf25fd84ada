import ExactAlgebra.Proofs.Simplify.Settled

/-!
# Parts of settled terms and factors

A settled term that is no constant is a coefficient together with a part without
one, and a settled factor that is no constant is an exponent together with a base.
Splitting a term and giving the coefficient back gives the term back.
-/

namespace ExactAlgebra
namespace Simplify

open ExactAlgebra.Expr

/-! ## Terms without coefficients -/

/-- A settled expression none of whose factors is a constant. -/
structure IsTermPart (part : Expr) : Prop where
  settled : Settled part
  noConstants : ∀ factor ∈ part.factors, factor.isNumber = false

/-- The conditions under which factors make a settled product. -/
structure AreFactors (factors : List Expr) : Prop where
  nonempty : factors ≠ []
  ordered : factors.Pairwise (le · ·)
  settled : ∀ factor ∈ factors, Settled factor
  flat : ∀ factor ∈ factors, factor.kind ≠ .product
  noConstants : ∀ factor ∈ factors, factor.isNumber = false
  distinct : (factors.map fun factor => (splitFactor factor).1).Nodup

theorem AreFactors.filter_eq_self {factors : List Expr} (parts : AreFactors factors) :
    factors.filter (!·.isNumber) = factors :=
  filter_not_isNumber_eq_self parts.noConstants

theorem ne_number_of_isNumber_eq_false
    {expr : Expr}
    (notNumber : expr.isNumber = false)
    (value : Fraction) :
    expr ≠ number value := by
  rintro rfl
  cases notNumber

/-- Factors without a constant make a product of their own. -/
theorem AreFactors.settled_product
    {factors : List Expr}
    (parts : AreFactors factors)
    (several : 2 ≤ factors.length) :
    Settled (product factors) := by
  refine .product factors several parts.ordered parts.settled parts.flat ?_ ?_ ?_ ?_
  · rw [filter_isNumber_eq_nil_iff.mpr parts.noConstants]
    exact Nat.zero_le 1
  · intro member
    exact ne_number_of_isNumber_eq_false (parts.noConstants 0 member) 0 rfl
  · intro member
    exact ne_number_of_isNumber_eq_false (parts.noConstants 1 member) 1 rfl
  · rw [parts.filter_eq_self]
    exact parts.distinct

/-- The product of factors without a constant is a part whose factors they are. -/
theorem AreFactors.productOfFactors
    {factors : List Expr}
    (parts : AreFactors factors) :
    IsTermPart (productOfFactors factors) ∧ (productOfFactors factors).factors = factors := by
  by_cases several : 2 ≤ factors.length
  · have built : Expr.productOfFactors factors = product factors :=
      productOfFactors_eq_product (List.Perm.refl factors) several parts.ordered
    rw [built]
    exact ⟨⟨parts.settled_product several, parts.noConstants⟩, rfl⟩
  · match factors, parts.nonempty, several with
    | [factor], _, _ =>
        have own : factor.factors = [factor] := by
          cases factor with
          | product operands => exact absurd rfl (parts.flat _ List.mem_cons_self)
          | _ => rfl
        refine ⟨⟨parts.settled factor List.mem_cons_self, ?_⟩, own⟩
        rw [Expr.productOfFactors, own]
        exact parts.noConstants
    | first :: second :: others, _, short => exact absurd (by simp) short

/-- The factors of a part without a coefficient. -/
theorem IsTermPart.areFactors {part : Expr} (isPart : IsTermPart part) :
    AreFactors part.factors := by
  have alone (single : part.factors = [part]) (flat : part.kind ≠ .product) :
      AreFactors part.factors := by
    rw [single]
    refine ⟨by simp, List.pairwise_singleton _ _, ?_, ?_, ?_, by simp⟩
    · simpa using isPart.settled
    · simpa using flat
    · simpa [single] using isPart.noConstants
  cases isPart.settled with
  | product operands several ordered settled flat oneConstant nonzero notOne distinct =>
      refine ⟨?_, ordered, settled, flat, isPart.noConstants, ?_⟩
      · rintro empty
        have isNil : operands = [] := empty
        simp [isNil] at several
      · have own : operands.filter (!·.isNumber) = operands :=
          filter_not_isNumber_eq_self isPart.noConstants
        rwa [own] at distinct
  | number value => exact alone rfl nofun
  | symbol name => exact alone rfl nofun
  | sum => exact alone rfl nofun
  | power => exact alone rfl nofun

/-- A part without a coefficient is the product of its factors. -/
theorem IsTermPart.productOfFactors_factors {part : Expr} (isPart : IsTermPart part) :
    productOfFactors part.factors = part := by
  cases isPart.settled with
  | product operands several ordered =>
      exact productOfFactors_eq_product (List.Perm.refl _) several ordered
  | _ => rfl

theorem IsTermPart.isNumber_eq_false {part : Expr} (isPart : IsTermPart part) :
    part.isNumber = false := by
  cases part with
  | number value => exact isPart.noConstants _ List.mem_cons_self
  | _ => rfl

/-- A part without a coefficient has the coefficient one. -/
theorem IsTermPart.splitTerm_eq {part : Expr} (isPart : IsTermPart part) :
    splitTerm part = (part, 1) :=
  splitTerm_of_noConstants isPart.noConstants

/-- A coefficient comes before the factors of a part. -/
theorem IsTermPart.ordered_cons
    {part : Expr}
    (isPart : IsTermPart part)
    (coefficient : Fraction) :
    (number coefficient :: part.factors).Pairwise (le · ·) :=
  List.pairwise_cons.mpr
    ⟨fun factor member => (le_number_iff (isPart.noConstants factor member) coefficient).1,
      isPart.areFactors.ordered⟩

/-- Giving a part a coefficient puts the coefficient in front of its factors. -/
theorem IsTermPart.scale_eq
    {part : Expr}
    (isPart : IsTermPart part)
    (coefficient : Fraction) :
    scale coefficient part = product (number coefficient :: part.factors) :=
  scale_eq_product (isPart.ordered_cons coefficient)

/-- A part with a coefficient splits into the two again. -/
theorem IsTermPart.splitTerm_scale
    {part : Expr}
    (isPart : IsTermPart part)
    (coefficient : Fraction) :
    splitTerm (scale coefficient part) = (part, coefficient) := by
  rw [isPart.scale_eq, splitTerm, isPart.productOfFactors_factors]

/-- A part with a coefficient other than zero and one is settled. -/
theorem IsTermPart.settled_scale
    {part : Expr}
    (isPart : IsTermPart part)
    {coefficient : Fraction}
    (nonzero : coefficient ≠ 0)
    (notOne : coefficient ≠ 1) :
    Settled (scale coefficient part) := by
  have parts := isPart.areFactors
  have others {value : Fraction} (differ : coefficient ≠ value) :
      number value ∉ number coefficient :: part.factors := by
    rw [List.mem_cons, not_or]
    refine ⟨fun equal => differ (Expr.number.inj equal).symm, fun member => ?_⟩
    cases parts.noConstants _ member
  rw [isPart.scale_eq]
  refine .product _ ?_ (isPart.ordered_cons coefficient) ?_ ?_ ?_ (others nonzero)
    (others notOne) ?_
  · have := List.length_pos_iff.mpr parts.nonempty
    rw [List.length_cons]
    omega
  · exact List.forall_mem_cons.mpr ⟨.number coefficient, parts.settled⟩
  · exact List.forall_mem_cons.mpr ⟨nofun, parts.flat⟩
  · rw [List.filter_cons_of_pos rfl, filter_isNumber_eq_nil_iff.mpr parts.noConstants]
    exact Nat.le_refl 1
  · rw [List.filter_cons_of_neg (by simp [isNumber, value?]), parts.filter_eq_self]
    exact parts.distinct

/-- A settled term that is no constant is a part with a coefficient, and collecting
the two gives the term back. -/
theorem exists_isTermPart
    {term : Expr}
    (settled : Settled term)
    (notNumber : term.isNumber = false) :
    ∃ part coefficient,
      IsTermPart part ∧ splitTerm term = (part, coefficient) ∧
        collectedTerm? (part, coefficient) = some term := by
  have whole (noConstants : ∀ factor ∈ term.factors, factor.isNumber = false) :
      ∃ part coefficient,
        IsTermPart part ∧ splitTerm term = (part, coefficient) ∧
          collectedTerm? (part, coefficient) = some term :=
    have isPart : IsTermPart term := ⟨settled, noConstants⟩
    ⟨term, 1, isPart, isPart.splitTerm_eq, rfl⟩
  cases settled with
  | number value => cases notNumber
  | symbol name => exact whole (by simp [factors, isNumber, value?])
  | sum => exact whole (by simp [factors, isNumber, value?])
  | power => exact whole (by simp [factors, isNumber, value?])
  | product operands several ordered operandsSettled flat oneConstant nonzero notOne distinct =>
      rcases constants_cases ordered oneConstant with none | ⟨coefficient, rest, rfl, noConstants⟩
      · exact whole none
      · have parts : AreFactors rest := by
          refine ⟨?_, (List.pairwise_cons.mp ordered).2, ?_, ?_, noConstants, ?_⟩
          · rintro rfl
            simp at several
          · intro factor member
            exact operandsSettled factor (List.mem_cons_of_mem _ member)
          · intro factor member
            exact flat factor (List.mem_cons_of_mem _ member)
          · rwa [List.filter_cons_of_neg (by simp [isNumber, value?]),
              filter_not_isNumber_eq_self noConstants] at distinct
        obtain ⟨isPart, factorsEq⟩ := parts.productOfFactors
        refine ⟨_, coefficient, isPart, rfl, ?_⟩
        have coefficientNonzero : coefficient ≠ 0 := by
          rintro rfl
          exact nonzero List.mem_cons_self
        have coefficientNotOne : coefficient ≠ 1 := by
          rintro rfl
          exact notOne List.mem_cons_self
        rw [collectedTerm?, if_neg coefficientNonzero, if_neg coefficientNotOne, isPart.scale_eq,
          factorsEq]

/-! ## Bases and exponents -/

/-- A settled expression that is no power, with an exponent that is positive for a
constant. -/
structure IsBasePart (base : Expr) (exponent : Fraction) : Prop where
  settled : Settled base
  flat : base.kind ≠ .power
  positive : base.isNumber = true → 0 < exponent.num

/-- A settled factor that is no constant splits into a base and an exponent. -/
theorem isBasePart_splitFactor
    {factor : Expr}
    (settled : Settled factor)
    (notNumber : factor.isNumber = false) :
    IsBasePart (splitFactor factor).1 (splitFactor factor).2 := by
  cases factor with
  | power base exponent =>
      cases settled with
      | power _ _ baseSettled flat nonzero notOne irrational =>
          refine ⟨baseSettled, flat, fun constant => ?_⟩
          obtain ⟨value, equal⟩ := exists_eq_number constant
          exact (irrational value equal).1
  | number value => cases notNumber
  | symbol name => exact ⟨settled, nofun, nofun⟩
  | sum operands => exact ⟨settled, nofun, nofun⟩
  | product operands => exact ⟨settled, nofun, nofun⟩

/-- Adding up exponents keeps them positive for a constant. -/
theorem IsBasePart.add
    {base : Expr}
    {first second : Fraction}
    (firstPart : IsBasePart base first)
    (secondPart : IsBasePart base second) :
    IsBasePart base (first + second) :=
  ⟨firstPart.settled, firstPart.flat, fun constant =>
    Fraction.num_add_pos (firstPart.positive constant) (secondPart.positive constant)⟩

/-- What is no power is a base with the exponent one. -/
theorem splitFactor_of_kind_ne {factor : Expr} (flat : factor.kind ≠ .power) :
    splitFactor factor = (factor, 1) := by
  cases factor with
  | power base exponent => exact absurd rfl flat
  | _ => rfl

/-! ## Tallied parts -/

section Tallies

variable {property : Expr → Prop} {operands : List Expr}

/-- What holds of the parts of all terms that are no constants holds of the tallied
ones. -/
theorem forall_mem_termTally
    (each : ∀ operand ∈ operands, operand.isNumber = false → property (splitTerm operand).1) :
    ∀ entry ∈ termTally operands, property entry.1 := by
  refine fun entry => Tally.forall_key_of_mem_ofEntries fun given inGiven => ?_
  obtain ⟨operand, inOperands, rfl⟩ := List.mem_map.mp inGiven
  obtain ⟨member, notNumber⟩ := List.mem_filter.mp inOperands
  exact each operand member (by simpa using notNumber)

/-- What holds of the bases of all factors that are no constants holds of the tallied
ones. -/
theorem forall_mem_factorTally
    (each : ∀ operand ∈ operands, operand.isNumber = false → property (splitFactor operand).1) :
    ∀ entry ∈ factorTally operands, property entry.1 := by
  refine fun entry => Tally.forall_key_of_mem_ofEntries fun given inGiven => ?_
  obtain ⟨operand, inOperands, rfl⟩ := List.mem_map.mp inGiven
  obtain ⟨member, notNumber⟩ := List.mem_filter.mp inOperands
  exact each operand member (by simpa using notNumber)

end Tallies

end Simplify
end ExactAlgebra
