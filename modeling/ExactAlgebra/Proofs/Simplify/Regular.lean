import ExactAlgebra.Proofs.Simplify.Idempotence
import ExactAlgebra.Proofs.WellFormed.Rewriting

/-!
# What every simplified expression looks like

Simplification need not give a settled expression, but some of what makes an expression
settled holds of every result, at any depth. Powers are always in normal form. A sum has
at most one constant, which is not zero. Zero and one are never factors, and a product
is never one of constants alone. Such expressions are called regular here.

The parts that simplification works on are operands, coefficients apart from their terms,
bases apart from their exponents, and powers of collected bases. All of them are regular
if the simplified operands are, so regularity is an invariant of the whole recursion.
-/

namespace ExactAlgebra
namespace Expr

/-! ## Occurrences -/

/-- An expression occurs in another one at some depth: it is the expression itself, or
occurs in one of the direct parts. -/
inductive OccursIn (part : Expr) : Expr → Prop
  | refl : OccursIn part part
  | child {whole child : Expr}
      (member : child ∈ whole.children)
      (occurs : OccursIn part child) :
      OccursIn part whole

theorem OccursIn.trans
    {inner middle outer : Expr}
    (first : inner.OccursIn middle)
    (second : middle.OccursIn outer) :
    inner.OccursIn outer := by
  induction second with
  | refl => exact first
  | child member occurs hypothesis => exact .child member hypothesis

/-- What all direct parts inherit holds of all that occurs in an expression. -/
theorem OccursIn.inherits
    {property : Expr → Prop}
    (inherited : ∀ whole, property whole → ∀ child ∈ whole.children, property child)
    {part whole : Expr}
    (occurs : part.OccursIn whole)
    (holds : property whole) :
    property part := by
  induction occurs with
  | refl => exact holds
  | child member occurs hypothesis => exact hypothesis (inherited _ holds _ member)

/-! ## Regular expressions -/

/-- Powers are in normal form: the exponent is neither zero nor one, the base is no
power, and a power of a constant is irrational with a positive exponent. Sums have at
most one constant, which is not zero. The factors of products are neither zero nor one,
and not all of them are constants. -/
inductive Regular : Expr → Prop
  | number (value : Fraction) : Regular (number value)
  | symbol (name : Symbol) : Regular (symbol name)
  | sum
      (operands : List Expr)
      (regular : ∀ operand ∈ operands, Regular operand)
      (oneConstant : (operands.filter (·.isNumber)).length ≤ 1)
      (nonzero : 0 ∉ operands) :
      Regular (sum operands)
  | product
      (operands : List Expr)
      (regular : ∀ operand ∈ operands, Regular operand)
      (nonzero : 0 ∉ operands)
      (notOne : 1 ∉ operands)
      (varies : ∃ operand ∈ operands, operand.isNumber = false) :
      Regular (product operands)
  | power
      (base : Expr)
      (exponent : Fraction)
      (regular : Regular base)
      (flat : base.kind ≠ .power)
      (nonzero : exponent ≠ 0)
      (notOne : exponent ≠ 1)
      (irrational : ∀ value, base = number value →
        0 < exponent.num ∧ value.pow exponent = .ok none) :
      Regular (power base exponent)

/-- The direct parts of a regular expression are regular. -/
theorem Regular.children {expr : Expr} (regular : Regular expr) :
    ∀ child ∈ expr.children, Regular child := by
  cases regular with
  | number value => exact nofun
  | symbol name => exact nofun
  | sum _ operandsRegular => exact operandsRegular
  | product _ operandsRegular => exact operandsRegular
  | power _ _ baseRegular => exact List.forall_mem_singleton.mpr baseRegular

/-- What occurs in a regular expression is regular. -/
theorem Regular.of_occursIn
    {part whole : Expr}
    (regular : Regular whole)
    (occurs : part.OccursIn whole) :
    Regular part :=
  occurs.inherits (fun _ => Regular.children) regular

/-- Settled expressions are regular. -/
theorem Settled.regular {expr : Expr} (settled : Settled expr) : Regular expr := by
  induction expr with
  | number value => exact .number value
  | symbol name => exact .symbol name
  | sum operands hypothesis =>
      cases settled with
      | sum _ several ordered operandsSettled flat oneConstant nonzero distinct =>
          exact .sum operands
            (fun operand member => hypothesis operand member (operandsSettled operand member))
            oneConstant nonzero
  | product operands hypothesis =>
      cases settled with
      | product _ several ordered operandsSettled flat oneConstant nonzero notOne distinct =>
          refine .product operands
            (fun operand member => hypothesis operand member (operandsSettled operand member))
            nonzero notOne ?_
          by_contra allConstant
          have constants : operands.filter (·.isNumber) = operands := by
            rw [List.filter_eq_self]
            intro operand member
            by_contra notNumber
            exact allConstant ⟨operand, member, by simpa using notNumber⟩
          rw [constants] at oneConstant
          omega
  | power base exponent hypothesis =>
      cases settled with
      | power _ _ baseSettled flat nonzero notOne irrational =>
          exact .power base exponent (hypothesis baseSettled) flat nonzero notOne irrational

theorem Regular.summands {expr : Expr} (regular : Regular expr) :
    ∀ summand ∈ expr.summands, Regular summand := by
  cases expr with
  | sum operands =>
      cases regular with
      | sum _ operandsRegular => exact operandsRegular
  | _ => simpa [Expr.summands] using regular

theorem Regular.factors {expr : Expr} (regular : Regular expr) :
    ∀ factor ∈ expr.factors, Regular factor := by
  cases expr with
  | product operands =>
      cases regular with
      | product _ operandsRegular => exact operandsRegular
  | _ => simpa [Expr.factors] using regular

end Expr

namespace Simplify

open ExactAlgebra.Expr

/-! ## Products of regular factors -/

/-- A regular expression that is no constant. -/
structure IsRegularTerm (term : Expr) : Prop where
  regular : Regular term
  notNumber : term.isNumber = false

/-- Regular factors, none of them zero or one and not all of them constants. -/
structure AreRegularFactors (factors : List Expr) : Prop where
  regular : ∀ factor ∈ factors, Regular factor
  nonzero : 0 ∉ factors
  notOne : 1 ∉ factors
  varies : ∃ factor ∈ factors, factor.isNumber = false

theorem AreRegularFactors.perm
    {left right : List Expr}
    (perm : left.Perm right)
    (factors : AreRegularFactors left) :
    AreRegularFactors right := by
  obtain ⟨regular, nonzero, notOne, varying, member, notNumber⟩ := factors
  exact ⟨fun factor inRight => regular factor (perm.mem_iff.mpr inRight),
    mt perm.mem_iff.mpr nonzero, mt perm.mem_iff.mpr notOne,
    varying, perm.mem_iff.mp member, notNumber⟩

theorem AreRegularFactors.productOf
    {factors : List Expr}
    (areFactors : AreRegularFactors factors) :
    Regular (productOf factors) :=
  have arranged := areFactors.perm (perm_arrange factors).symm
  .product _ arranged.regular arranged.nonzero arranged.notOne arranged.varies

/-- The product of such factors is regular and no constant. -/
theorem AreRegularFactors.productOfFactors
    {factors : List Expr}
    (areFactors : AreRegularFactors factors) :
    IsRegularTerm (productOfFactors factors) := by
  match factors, areFactors with
  | [], areFactors => simpa using areFactors.varies
  | [factor], areFactors =>
      obtain ⟨varying, member, notNumber⟩ := areFactors.varies
      cases List.mem_singleton.mp member
      exact ⟨areFactors.regular factor List.mem_cons_self, notNumber⟩
  | first :: second :: others, areFactors => exact ⟨areFactors.productOf, rfl⟩

/-- Regular factors without constants, at least one. -/
theorem areRegularFactors_of_noConstants
    {factors : List Expr}
    (nonempty : factors ≠ [])
    (regular : ∀ factor ∈ factors, Regular factor)
    (noConstants : ∀ factor ∈ factors, factor.isNumber = false) :
    AreRegularFactors factors := by
  have noNumber (value : Fraction) : number value ∉ factors := fun member =>
    ne_number_of_isNumber_eq_false (noConstants _ member) value rfl
  obtain ⟨factor, member⟩ := List.exists_mem_of_ne_nil factors nonempty
  exact ⟨regular, noNumber 0, noNumber 1, factor, member, noConstants factor member⟩

/-- A coefficient other than zero and one may join the factors. -/
theorem AreRegularFactors.append_coefficient
    {factors : List Expr}
    {coefficient : Fraction}
    (areFactors : AreRegularFactors factors)
    (nonzero : coefficient ≠ 0)
    (notOne : coefficient ≠ 1) :
    AreRegularFactors (factors ++ [number coefficient]) := by
  have absent {value : Fraction}
      (differ : coefficient ≠ value)
      (inFactors : number value ∉ factors) :
      number value ∉ factors ++ [number coefficient] := by
    rw [List.mem_append, List.mem_singleton, not_or]
    exact ⟨inFactors, fun equal => differ (Expr.number.inj equal).symm⟩
  obtain ⟨varying, member, notNumber⟩ := areFactors.varies
  refine ⟨?_, absent nonzero areFactors.nonzero, absent notOne areFactors.notOne,
    varying, List.mem_append_left _ member, notNumber⟩
  exact List.forall_mem_append.mpr
    ⟨areFactors.regular, by simpa using Regular.number coefficient⟩

/-! ## Sums -/

/-- A term apart from its coefficient is regular and no constant. -/
theorem regular_splitTerm
    {operand : Expr}
    (regular : Regular operand)
    (notNumber : operand.isNumber = false) :
    IsRegularTerm (splitTerm operand).1 := by
  unfold splitTerm
  split
  · rename_i coefficient rest
    cases regular with
    | product _ operandsRegular nonzero notOne varies =>
        rw [List.mem_cons, not_or] at nonzero notOne
        obtain ⟨varying, member, varyingNotNumber⟩ := varies
        refine AreRegularFactors.productOfFactors
          ⟨(List.forall_mem_cons.mp operandsRegular).2, nonzero.2, notOne.2, varying, ?_,
            varyingNotNumber⟩
        rcases List.mem_cons.mp member with rfl | inRest
        · cases varyingNotNumber
        · exact inRest
  · exact ⟨regular, notNumber⟩

/-- A coefficient other than zero and one joins the factors of a term. -/
theorem regular_scale
    {coefficient : Fraction}
    {term : Expr}
    (nonzero : coefficient ≠ 0)
    (notOne : coefficient ≠ 1)
    (isTerm : IsRegularTerm term) :
    Regular (scale coefficient term) := by
  unfold scale
  split
  · rename_i operands
    cases isTerm.regular with
    | product _ operandsRegular noZero noOne varies =>
        have areFactors : AreRegularFactors operands := ⟨operandsRegular, noZero, noOne, varies⟩
        exact (areFactors.append_coefficient nonzero notOne).productOf
  · have alone : AreRegularFactors [term] :=
      areRegularFactors_of_noConstants (List.cons_ne_nil _ _)
        (List.forall_mem_singleton.mpr isTerm.regular)
        (List.forall_mem_singleton.mpr isTerm.notNumber)
    exact ((alone.append_coefficient nonzero notOne).perm (.swap _ _ _)).productOf

/-- Regular terms with one constant at most, which is not zero, make a regular sum. -/
theorem regular_sumOfTerms
    {terms : List Expr}
    (regular : ∀ term ∈ terms, Regular term)
    (oneConstant : (terms.filter (·.isNumber)).length ≤ 1)
    (nonzero : 0 ∉ terms) :
    Regular (sumOfTerms terms) := by
  match terms with
  | [] => exact .number 0
  | [term] => exact regular term List.mem_cons_self
  | first :: second :: others =>
      have perm := perm_arrange (first :: second :: others)
      refine .sum _ (fun term member => regular term (perm.mem_iff.mp member)) ?_ ?_
      · rwa [(perm.filter _).length_eq]
      · exact fun member => nonzero (perm.mem_iff.mp member)

/-- Regular terms that are no constants, and a constant, make a regular sum. -/
theorem regular_sumOfTerms_constant
    {terms : List Expr}
    (constant : Fraction)
    (areTerms : ∀ term ∈ terms, IsRegularTerm term) :
    Regular (sumOfTerms (if constant = 0 then terms else number constant :: terms)) := by
  have noZero : 0 ∉ terms := fun member =>
    ne_number_of_isNumber_eq_false (areTerms 0 member).notNumber 0 rfl
  have constants : terms.filter (·.isNumber) = [] :=
    filter_isNumber_eq_nil_iff.mpr fun term member => (areTerms term member).notNumber
  have regular : ∀ term ∈ terms, Regular term := fun term member => (areTerms term member).regular
  split
  · refine regular_sumOfTerms regular ?_ noZero
    rw [constants]
    exact Nat.zero_le 1
  · rename_i nonzero
    refine regular_sumOfTerms (List.forall_mem_cons.mpr ⟨.number constant, regular⟩) ?_ ?_
    · rw [List.filter_cons_of_pos rfl, constants]
      exact Nat.le_refl 1
    · rw [List.mem_cons, not_or]
      exact ⟨fun equal => nonzero (Expr.number.inj equal).symm, noZero⟩

/-- A collected term is regular and no constant. -/
theorem regular_of_collectedTerm?_eq_some
    {entry : Expr × Fraction}
    {term : Expr}
    (isTerm : IsRegularTerm entry.1)
    (collected : collectedTerm? entry = some term) :
    IsRegularTerm term := by
  rcases cases_of_collectedTerm?_eq_some collected with ⟨_, rfl⟩ | ⟨nonzero, notOne, rfl⟩
  · exact isTerm
  · refine ⟨regular_scale nonzero notOne isTerm, ?_⟩
    unfold scale
    split <;> rfl

/-- The terms that are collected from regular ones are regular and no constants. -/
theorem isRegularTerm_of_mem_collected
    {operands : List Expr}
    (regular : ∀ operand ∈ operands, Regular operand) :
    ∀ term ∈ (termTally operands).filterMap collectedTerm?, IsRegularTerm term := by
  have parts : ∀ entry ∈ termTally operands, IsRegularTerm entry.1 :=
    forall_mem_termTally fun operand member notNumber =>
      regular_splitTerm (regular operand member) notNumber
  intro term member
  obtain ⟨entry, inTally, found⟩ := List.mem_filterMap.mp member
  exact regular_of_collectedTerm?_eq_some (parts entry inTally) found

/-- Collecting regular terms gives a regular expression. -/
theorem regular_collectSum
    {operands : List Expr}
    (regular : ∀ operand ∈ operands, Regular operand) :
    Regular (collectSum operands) :=
  regular_sumOfTerms_constant _ (isRegularTerm_of_mem_collected regular)

/-! ## Products -/

/-- The base of a regular factor is regular. -/
theorem regular_splitFactor {factor : Expr} (regular : Regular factor) :
    Regular (splitFactor factor).1 := by
  cases regular with
  | power base exponent baseRegular => exact baseRegular
  | number value => exact .number value
  | symbol name => exact .symbol name
  | sum _ operandsRegular oneConstant nonzero =>
      exact .sum _ operandsRegular oneConstant nonzero
  | product _ operandsRegular nonzero notOne varies =>
      exact .product _ operandsRegular nonzero notOne varies

/-- Regular factors without constants and a coefficient make a regular expression. -/
theorem regular_assembleProduct
    {factors : List Expr}
    (coefficient : Fraction)
    (regular : ∀ factor ∈ factors, Regular factor)
    (noConstants : ∀ factor ∈ factors, factor.isNumber = false) :
    Regular (assembleProduct coefficient factors) := by
  unfold assembleProduct
  split
  · exact .number 0
  · rename_i nonzero
    cases factors with
    | nil =>
        split
        · exact .number 1
        · exact .number coefficient
    | cons first others =>
        have areFactors :=
          areRegularFactors_of_noConstants (List.cons_ne_nil _ _) regular noConstants
        split
        · exact areFactors.productOfFactors.regular
        · rename_i notOne
          exact (areFactors.append_coefficient nonzero notOne).productOfFactors.regular

/-! ## What a step makes of regular parts -/

section Step

variable {simplifyPart : Expr → Except RewriteError Expr}
variable (parts : ∀ part result, simplifyPart part = .ok result → Regular result)
include parts

/-- Raising a regular base gives a regular expression. -/
theorem regular_raise
    {base result : Expr}
    {exponent : Fraction}
    (regular : Regular base)
    (success : raise simplifyPart base exponent = .ok result) :
    Regular result := by
  cases raisesTo_of_raise_eq_ok success with
  | zero => exact .number 1
  | one => exact regular
  | constant nonzero notOne found =>
      rcases numberPower_cases found with ⟨answer, rfl⟩ | ⟨_, _, _, settledPower, _⟩
      · exact .number answer
      · exact settledPower.regular
  | nested nonzero notOne found => exact parts _ result found
  | kept nonzero notOne notNumber flat =>
      refine .power _ _ regular flat nonzero notOne fun value isConstant => ?_
      exact absurd isConstant (ne_number_of_isNumber_eq_false notNumber value)

/-- Collecting regular factors gives a regular expression. -/
theorem regular_collectProduct
    {operands : List Expr}
    {result : Expr}
    (regular : ∀ operand ∈ operands, Regular operand)
    (success : collectProduct simplifyPart operands = .ok result) :
    Regular result := by
  have bases : ∀ entry ∈ factorTally operands, Regular entry.1 :=
    forall_mem_factorTally fun operand member _ => regular_splitFactor (regular operand member)
  cases multipliesTo_of_collectProduct_eq_ok success with
  | zero => exact .number 0
  | assembled nonzero mapped =>
      refine regular_assembleProduct _ (fun factor member => ?_)
        fun factor member => (exists_of_mem_collected mapped member).1
      obtain ⟨_, entry, inTally, factors, found, inFactors⟩ := exists_of_mem_collected mapped member
      cases collectsTo_of_collectedFactor_eq_ok found with
      | zero => cases inFactors
      | one =>
          cases List.mem_singleton.mp inFactors
          exact bases entry inTally
      | power nonzero notOne simplified =>
          cases List.mem_singleton.mp inFactors
          exact parts _ _ simplified

/-- If all simplified parts are regular, so is what a step makes of them. -/
theorem regular_step
    {expr result : Expr}
    (success : step simplifyPart expr = .ok result) :
    Regular result := by
  have operandsRegular {operands simplified : List Expr}
      (mapped : operands.mapM simplifyPart = .ok simplified) :
      ∀ operand ∈ simplified, Regular operand := by
    intro operand member
    obtain ⟨source, _, found⟩ := exists_of_mem_mapM mapped member
    exact parts source operand found
  cases expr with
  | number value =>
      cases success
      exact .number value
  | symbol name =>
      cases success
      exact .symbol name
  | sum operands =>
      obtain ⟨simplified, mapped, last⟩ := except_bind_eq_ok success
      cases last
      apply regular_collectSum
      intro summand member
      obtain ⟨operand, inSimplified, inSummands⟩ := List.mem_flatMap.mp member
      exact (operandsRegular mapped operand inSimplified).summands summand inSummands
  | product operands =>
      obtain ⟨simplified, mapped, last⟩ := except_bind_eq_ok success
      refine regular_collectProduct parts ?_ last
      intro factor member
      obtain ⟨operand, inSimplified, inFactors⟩ := List.mem_flatMap.mp member
      exact (operandsRegular mapped operand inSimplified).factors factor inFactors
  | power base exponent =>
      obtain ⟨simplified, found, last⟩ := except_bind_eq_ok success
      exact regular_raise parts (parts base simplified found) last

end Step

/-! ## The whole recursion -/

/-- What a step makes of results that have a property, all results of simplification
have. Parts are lighter than the whole, which is what the induction is on. -/
theorem simplify_induction
    {property : Expr → Prop}
    (kept : ∀ {simplifyPart : Expr → Except RewriteError Expr} {expr result : Expr},
      (∀ part result, simplifyPart part = .ok result → property result) →
        step simplifyPart expr = .ok result → property result)
    {expr result : Expr}
    (success : expr.simplify = .ok result) :
    property result := by
  induction weight : expr.weight using Nat.strong_induction_on generalizing expr result with
  | _ bound hypothesis =>
      subst weight
      -- Heavier expressions are never asked for, so it does not matter that they fail.
      let lighterOnly (part : Expr) : Except RewriteError Expr :=
        if part.weight < expr.weight then part.simplify else .error .zeroToTheZero
      have agree : step Expr.simplify expr = step lighterOnly expr :=
        step_congr lightening_simplify fun part lighter => (if_pos lighter).symm
      rw [simplify_eq_step, agree] at success
      refine kept (fun part result found => ?_) success
      by_cases lighter : part.weight < expr.weight
      · exact hypothesis part.weight lighter ((if_pos lighter).symm.trans found) rfl
      · cases (if_neg lighter).symm.trans found

end Simplify

namespace Expr

/-- All results of simplification are regular. -/
theorem regular_of_simplify_eq_ok
    {expr result : Expr}
    (success : expr.simplify = .ok result) :
    Regular result :=
  Simplify.simplify_induction (fun parts => Simplify.regular_step parts) success

/-- Every power in a result of simplification is in normal form. Its exponent is
neither zero nor one, its base is no power, and if the base is a constant, then the
exponent is positive and the power has no rational value. -/
theorem power_normal_of_occursIn
    {expr result base : Expr}
    {exponent : Fraction}
    (success : expr.simplify = .ok result)
    (occurs : (power base exponent).OccursIn result) :
    exponent ≠ 0 ∧ exponent ≠ 1 ∧ base.kind ≠ .power ∧
      ∀ value, base = number value →
        0 < exponent.num ∧ value.pow exponent = .ok none := by
  cases (regular_of_simplify_eq_ok success).of_occursIn occurs with
  | power _ _ baseRegular flat nonzero notOne irrational =>
      exact ⟨nonzero, notOne, flat, irrational⟩

/-- One half. -/
def half : Fraction := .reduce 1 2 Nat.two_pos

/-- The inverse of the square root of two next to the cube of a square. -/
def rootAndNestedPower : Expr :=
  productOf [power (number (.ofInt 2)) (-half),
    power (power (symbol .x) (.ofInt 2)) (.ofInt 3)]

/-- The inverse root becomes the root of the inverse, which occurs in the result beside
the sixth power. -/
theorem power_normal_in_rootAndNestedPower :
    rootAndNestedPower.simplify =
        .ok (product [power (number half) half, power (symbol .x) (.ofInt 6)]) ∧
      0 < half.num ∧ half.pow half = .ok none := by
  have success : rootAndNestedPower.simplify =
      .ok (product [power (number half) half, power (symbol .x) (.ofInt 6)]) := by
    decide +kernel
  have normal := power_normal_of_occursIn success (.child List.mem_cons_self .refl)
  exact ⟨success, normal.2.2.2 half rfl⟩

end Expr
end ExactAlgebra
