import ExactAlgebra.Proofs.Polynomial.Product
import ExactAlgebra.Proofs.Simplify.Value

/-!
# The canonical form of polynomials

The canonical expression of a polynomial is the sum of the canonical expressions of
its monomials. Expanding and then simplifying an expression that is built like a
polynomial gives the canonical expression of the polynomial that it denotes. So two
such expressions have equal results exactly when they denote the same polynomial.
-/

namespace ExactAlgebra
namespace Expr

open Simplify

/-- The canonical expression of a polynomial. -/
noncomputable def ofPolynomial (polynomial : MvPolynomial Symbol ℚ) : Expr :=
  sumOfTerms (polynomial.support.toList.map fun exponents =>
    ofMonomial exponents (polynomial.coeff exponents))

/-- The canonical expression of a polynomial denotes the polynomial. -/
@[simp] theorem toPolynomial?_ofPolynomial (polynomial : MvPolynomial Symbol ℚ) :
    (ofPolynomial polynomial).toPolynomial? = some polynomial := by
  rw [toPolynomial?, ofPolynomial, eval_sumOfTerms, List.map_map]
  have terms : ∀ exponents ∈ polynomial.support.toList,
      (ofMonomial exponents (polynomial.coeff exponents)).toPolynomial? =
        some (MvPolynomial.monomial exponents (polynomial.coeff exponents)) :=
    fun exponents _ => toPolynomial?_ofMonomial exponents _
  refine (strictSum_map_eq_some terms).trans ?_
  rw [Finset.sum_map_toList, MvPolynomial.support_sum_monomial_coeff]

/-- Monomials that are all different and have no coefficient zero make the canonical
expression of their sum. -/
theorem sumOfTerms_ofMonomial
    {entries : List ((Symbol →₀ ℕ) × ℚ)}
    (distinct : (entries.map Prod.fst).Nodup)
    (nonzero : ∀ entry ∈ entries, entry.2 ≠ 0) :
    sumOfTerms (entries.map fun entry => ofMonomial entry.1 entry.2) =
      ofPolynomial (entries.map fun entry => MvPolynomial.monomial entry.1 entry.2).sum := by
  classical
  have perm := perm_toList_map distinct nonzero
    (fun exponents => @MvPolynomial.mem_support_iff _ _ _
      (entries.map fun entry => MvPolynomial.monomial entry.1 entry.2).sum exponents)
    (fun exponents => by
      change MvPolynomial.lcoeff ℚ exponents _ = _
      rw [map_list_sum, List.map_map]
      congr 1
      apply List.map_congr_left
      intro entry _
      exact MvPolynomial.coeff_monomial exponents entry.1 entry.2)
  rw [sumOfTerms_perm (perm.map fun entry => ofMonomial entry.1 entry.2), List.map_map]
  rfl

theorem ofPolynomial_monomial (exponents : Symbol →₀ ℕ) (coefficient : ℚ) :
    ofPolynomial (MvPolynomial.monomial exponents coefficient) =
      ofMonomial exponents coefficient := by
  by_cases isZero : coefficient = 0
  · rw [isZero, map_zero, ofMonomial_zero_right, ofPolynomial, MvPolynomial.support_zero,
      Finset.toList_empty]
    rfl
  · have single := @sumOfTerms_ofMonomial [(exponents, coefficient)] (List.nodup_singleton _)
      (by simpa using isZero)
    rw [List.map_singleton, List.map_singleton, List.sum_singleton] at single
    exact single.symm

/-! ## Sums of monomials -/

/-- The coefficients of canonical monomials are tallied under the monomials. -/
theorem exists_termTally_eq
    {operands : List Expr}
    (monomials : ∀ operand ∈ operands, ∃ exponents coefficient,
      operand = ofMonomial exponents coefficient) :
    ∃ entries : List ((Symbol →₀ ℕ) × ℚ),
      termTally operands = entries.map (fun entry => (ofMonomial entry.1 1, .ofRat entry.2)) ∧
        (∀ entry ∈ entries, entry.1 ≠ 0) ∧ (entries.map Prod.fst).Nodup := by
  refine @Tally.exists_ofEntries_eq_map _ _ _ _ (ofMonomial · 1) Fraction.ofRat
    (fun source => source.1 ≠ 0) ofMonomial_one_injective _ ?_ ?_
  · intro entry member
    obtain ⟨operand, inOperands, rfl⟩ := List.mem_map.mp member
    obtain ⟨belongs, notNumber⟩ := List.mem_filter.mp inOperands
    obtain ⟨exponents, coefficient, rfl⟩ := monomials operand belongs
    have exponentsNonzero : exponents ≠ 0 := by
      rintro rfl
      rw [ofMonomial_zero_left] at notNumber
      cases notNumber
    have nonzero : coefficient ≠ 0 := by
      rintro rfl
      rw [ofMonomial_zero_right] at notNumber
      cases notNumber
    exact ⟨(exponents, coefficient), exponentsNonzero,
      (splitTerm_ofMonomial exponentsNonzero nonzero).symm⟩
  · intro exponents first second exponentsNonzero _
    refine ⟨first + second, exponentsNonzero, ?_⟩
    apply Fraction.toRat_injective
    rw [Fraction.toRat_add, Fraction.toRat_ofRat, Fraction.toRat_ofRat, Fraction.toRat_ofRat]

/-- Adding up canonical monomials gives the canonical expression of a polynomial. -/
theorem exists_collectSum_eq
    {operands : List Expr}
    (monomials : ∀ operand ∈ operands, ∃ exponents coefficient,
      operand = ofMonomial exponents coefficient) :
    ∃ polynomial, collectSum operands = ofPolynomial polynomial := by
  obtain ⟨entries, tallied, exponentsNonzero, distinct⟩ := exists_termTally_eq monomials
  have collected : (termTally operands).filterMap collectedTerm? =
      (entries.filter (·.2 ≠ 0)).map fun entry => ofMonomial entry.1 entry.2 := by
    rw [tallied, List.filterMap_map, ← List.filterMap_eq_map, List.filterMap_filter]
    apply List.filterMap_congr
    intro entry member
    rw [Function.comp_apply, collectedTerm?_ofMonomial (exponentsNonzero entry member)]
    by_cases isZero : entry.2 = 0
    · simp [isZero]
    · simp [isZero]
  have keptDistinct : ((entries.filter (·.2 ≠ 0)).map Prod.fst).Nodup :=
    distinct.sublist (List.filter_sublist.map Prod.fst)
  have keptNonzero : ∀ entry ∈ entries.filter (·.2 ≠ 0), entry.2 ≠ 0 :=
    fun entry member => of_decide_eq_true (List.mem_filter.mp member).2
  rw [collectSum, collected]
  split
  · exact ⟨_, sumOfTerms_ofMonomial keptDistinct keptNonzero⟩
  · rename_i nonzero
    have absent : 0 ∉ (entries.filter (·.2 ≠ 0)).map Prod.fst := by
      intro present
      obtain ⟨entry, member, isZero⟩ := List.mem_map.mp present
      exact exponentsNonzero entry (List.mem_of_mem_filter member) isZero
    have constant : number (constantTerm operands) =
        ofMonomial 0 (constantTerm operands).toRat := by
      rw [ofMonomial_zero_left, Fraction.ofRat_toRat]
    have whole := @sumOfTerms_ofMonomial
      ((0, (constantTerm operands).toRat) :: entries.filter (·.2 ≠ 0))
      (List.nodup_cons.mpr ⟨absent, keptDistinct⟩)
      (List.forall_mem_cons.mpr ⟨mt Fraction.toRat_eq_zero_iff.mp nonzero, keptNonzero⟩)
    rw [List.map_cons, ← constant] at whole
    exact ⟨_, whole⟩

theorem kind_productOfFactors_ne_sum
    {factors : List Expr}
    (each : ∀ factor ∈ factors, factor.kind ≠ .sum) :
    (productOfFactors factors).kind ≠ .sum := by
  match factors with
  | [] => exact Kind.noConfusion
  | [factor] => exact each factor List.mem_cons_self
  | first :: second :: others => exact Kind.noConfusion

/-- A canonical monomial is one term. -/
theorem kind_ofMonomial_ne_sum (exponents : Symbol →₀ ℕ) (coefficient : ℚ) :
    (ofMonomial exponents coefficient).kind ≠ .sum := by
  have each : ∀ factor ∈ powers exponents, factor.kind ≠ .sum := by
    intro factor member
    obtain ⟨name, exponent, _, rfl⟩ := isPower_of_mem_powers member
    exact (kind_ofPower_ne name exponent).2
  rw [ofMonomial, assembleProduct]
  split
  · exact Kind.noConfusion
  · split
    · exact kind_productOfFactors_ne_sum each
    · apply kind_productOfFactors_ne_sum
      exact List.forall_mem_append.mpr ⟨each, by simp [kind]⟩

/-- Simplifying a sum of monomials gives the canonical expression of a polynomial. -/
theorem IsExpanded.exists_simplify_eq_ok {expr : Expr} (expanded : IsExpanded expr) :
    ∃ polynomial, expr.simplify = .ok (ofPolynomial polynomial) := by
  have alone (monomial : IsMonomial expr) :
      ∃ polynomial, expr.simplify = .ok (ofPolynomial polynomial) := by
    obtain ⟨exponents, coefficient, success⟩ := monomial.exists_simplify_eq_ok
    exact ⟨_, by rw [success, ofPolynomial_monomial]⟩
  cases expr with
  | sum operands =>
      have each : ∀ operand ∈ operands, ∃ exponents coefficient,
          operand.simplify = .ok (ofMonomial exponents coefficient) :=
        fun operand member => (expanded operand member).exists_simplify_eq_ok
      choose! exponents coefficient success using each
      rw [simplify_eq_step, step, mapM_eq_ok_map success]
      change ∃ polynomial, Except.ok (collectSum _) = Except.ok (ofPolynomial polynomial)
      rw [flatMap_summands_eq_self
        (List.forall_mem_map.mpr fun operand _ => kind_ofMonomial_ne_sum _ _)]
      obtain ⟨polynomial, equal⟩ := exists_collectSum_eq
        (List.forall_mem_map.mpr fun operand _ => ⟨exponents operand, coefficient operand, rfl⟩)
      exact ⟨polynomial, congrArg Except.ok equal⟩
  | number value => exact alone (expanded _ List.mem_cons_self)
  | symbol name => exact alone (expanded _ List.mem_cons_self)
  | product operands => exact alone (expanded _ List.mem_cons_self)
  | power base exponent => exact alone (expanded _ List.mem_cons_self)

/-! ## Polynomials -/

/-- Polynomials have values in every commutative algebra over the rational numbers. -/
theorem IsPolynomial.exists_eval_eq_some
    {K : Type*}
    [CommRing K]
    [Algebra ℚ K]
    (assignment : Symbol → K)
    {expr : Expr}
    (polynomial : IsPolynomial expr) :
    ∃ value, expr.eval assignment = some value := by
  induction polynomial with
  | number value => exact ⟨_, eval_number assignment value⟩
  | symbol name => exact ⟨_, eval_symbol assignment name⟩
  | sum operands _ hypothesis =>
      choose! value defined using hypothesis
      exact ⟨_, by rw [eval_sum, strictSum_map_eq_some defined]⟩
  | product operands _ hypothesis =>
      choose! value defined using hypothesis
      exact ⟨_, by rw [eval_product, strictProduct_map_eq_some defined]⟩
  | power base exponent positive _ hypothesis =>
      obtain ⟨value, defined⟩ := hypothesis
      exact ⟨_, by rw [eval_power, defined, Option.bind_some, rationalPower_ofInt,
        integerPower_of_pos value positive]⟩

/-- Expanding and simplifying a polynomial gives the canonical expression of what it
denotes. -/
theorem IsPolynomial.exists_simplify_expand {expr : Expr} (polynomial : IsPolynomial expr) :
    ∃ denoted,
      expr.toPolynomial? = some denoted ∧
        (expr.expand >>= simplify) = .ok (ofPolynomial denoted) := by
  obtain ⟨denoted, denotes⟩ := polynomial.exists_eval_eq_some
    (MvPolynomial.X : Symbol → MvPolynomial Symbol ℚ)
  obtain ⟨expanded, success, isExpanded⟩ := polynomial.exists_expand_eq_ok
  obtain ⟨result, simplified⟩ := isExpanded.exists_simplify_eq_ok
  have expandedValue := keepsValues_expand _ _ _ _ success denotes
  have resultValue : (ofPolynomial result).toPolynomial? = some denoted :=
    keepsValues_simplify _ _ _ _ simplified expandedValue
  rw [toPolynomial?_ofPolynomial] at resultValue
  refine ⟨denoted, denotes, ?_⟩
  rw [success, ← Option.some.inj resultValue]
  exact simplified

/-- Expanding and simplifying is a canonical form for polynomials: it succeeds on all
of them, and gives equal results exactly for those that denote the same polynomial. -/
theorem simplify_expand_eq_iff
    {left right : Expr}
    (leftPolynomial : IsPolynomial left)
    (rightPolynomial : IsPolynomial right) :
    ∃ leftResult rightResult leftDenoted rightDenoted,
      (left.expand >>= simplify) = .ok leftResult ∧
        (right.expand >>= simplify) = .ok rightResult ∧
          left.toPolynomial? = some leftDenoted ∧
            right.toPolynomial? = some rightDenoted ∧
              (leftResult = rightResult ↔ leftDenoted = rightDenoted) := by
  obtain ⟨leftDenoted, leftDenotes, leftSuccess⟩ := leftPolynomial.exists_simplify_expand
  obtain ⟨rightDenoted, rightDenotes, rightSuccess⟩ := rightPolynomial.exists_simplify_expand
  refine ⟨_, _, leftDenoted, rightDenoted, leftSuccess, rightSuccess, leftDenotes, rightDenotes,
    fun equal => ?_, congrArg ofPolynomial⟩
  have denoted := congrArg toPolynomial? equal
  rw [toPolynomial?_ofPolynomial, toPolynomial?_ofPolynomial] at denoted
  exact Option.some.inj denoted

/-- The square of `x + 1`. -/
def squareOfSum : Expr :=
  power (sum [number (.ofInt 1), symbol .x]) (.ofInt 2)

/-- The sum `1 + x + x * (x + 1)`. -/
def nestedSum : Expr :=
  sum [number (.ofInt 1), symbol .x, product [symbol .x, sum [number (.ofInt 1), symbol .x]]]

theorem simplify_expand_squareOfSum_eq_iff :
    ∃ leftResult rightResult leftDenoted rightDenoted,
      (squareOfSum.expand >>= simplify) = .ok leftResult ∧
        (nestedSum.expand >>= simplify) = .ok rightResult ∧
          squareOfSum.toPolynomial? = some leftDenoted ∧
            nestedSum.toPolynomial? = some rightDenoted ∧
              (leftResult = rightResult ↔ leftDenoted = rightDenoted) := by
  have binomial : IsPolynomial (sum [number (.ofInt 1), symbol .x]) := by
    refine .sum _ ?_
    simp only [List.forall_mem_cons, IsPolynomial.number, IsPolynomial.symbol, true_and]
    exact List.forall_mem_nil _
  have square : IsPolynomial squareOfSum := .power _ 2 (by decide) binomial
  have nested : IsPolynomial nestedSum := by
    refine .sum _ ?_
    simp only [List.forall_mem_cons, IsPolynomial.number, IsPolynomial.symbol, true_and]
    refine ⟨.product _ ?_, List.forall_mem_nil _⟩
    simp only [List.forall_mem_cons, IsPolynomial.symbol, binomial, true_and]
    exact List.forall_mem_nil _
  exact simplify_expand_eq_iff square nested

end Expr
end ExactAlgebra
