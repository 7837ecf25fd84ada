import ExactAlgebra.Proofs.Polynomial.Expanded
import ExactAlgebra.Proofs.Simplify.FixedPoint
import Mathlib.Algebra.MvPolynomial.Basic

/-!
# Canonical monomials

The canonical expression of a monomial multiplies its coefficient with powers of
variables, every variable once. It splits into its coefficient and the rest as any
term does, and it denotes the monomial.
-/

namespace ExactAlgebra

/-! ## Entries with distinct keys -/

section Entries

variable {ι V : Type*} [DecidableEq ι] [AddCommMonoid V]

/-- Entries with distinct keys and without zeros list the support of the function
that they add up to. -/
theorem perm_toList_map
    {entries : List (ι × V)}
    (distinct : (entries.map Prod.fst).Nodup)
    (nonzero : ∀ entry ∈ entries, entry.2 ≠ 0)
    {support : Finset ι}
    {value : ι → V}
    (mem_support : ∀ key, key ∈ support ↔ value key ≠ 0)
    (value_eq : ∀ key,
      value key = (entries.map fun entry => if entry.1 = key then entry.2 else 0).sum) :
    entries.Perm (support.toList.map fun key => (key, value key)) := by
  have listed : (support.toList.map fun key => (key, value key)).Nodup :=
    support.nodup_toList.map fun _ _ equal => congrArg Prod.fst equal
  rw [List.perm_ext_iff_of_nodup distinct.of_map listed]
  intro entry
  rw [List.mem_map]
  constructor
  · intro member
    have total := (value_eq entry.1).trans (sum_ite_eq_of_mem distinct member)
    refine ⟨entry.1, ?_, by rw [total]⟩
    rw [Finset.mem_toList, mem_support, total]
    exact nonzero entry member
  · rintro ⟨key, inSupport, rfl⟩
    have valueNonzero := (mem_support key).mp (Finset.mem_toList.mp inSupport)
    have present : key ∈ entries.map Prod.fst := by
      by_contra absent
      exact valueNonzero ((value_eq key).trans (sum_ite_eq_zero_of_not_mem absent))
    obtain ⟨entry, member, rfl⟩ := List.mem_map.mp present
    rwa [(value_eq entry.1).trans (sum_ite_eq_of_mem distinct member)]

end Entries

namespace Expr

open Simplify

/-! ## Canonical monomials -/

/-- The power of a variable with a positive exponent. -/
def ofPower (name : Symbol) (exponent : ℕ) : Expr :=
  if exponent = 1 then symbol name else power (symbol name) (.ofInt exponent)

/-- The powers of variables in a monomial. -/
noncomputable def powers (exponents : Symbol →₀ ℕ) : List Expr :=
  exponents.support.toList.map fun name => ofPower name (exponents name)

/-- The expression is a power of a variable with a positive exponent. -/
def IsPower (factor : Expr) : Prop :=
  ∃ name exponent, exponent ≠ 0 ∧ factor = ofPower name exponent

theorem isPower_of_mem_powers
    {exponents : Symbol →₀ ℕ}
    {factor : Expr}
    (member : factor ∈ powers exponents) :
    IsPower factor := by
  obtain ⟨name, inSupport, rfl⟩ := List.mem_map.mp member
  exact ⟨name, _, Finsupp.mem_support_iff.mp (Finset.mem_toList.mp inSupport), rfl⟩

/-- The canonical expression of a monomial. -/
noncomputable def ofMonomial (exponents : Symbol →₀ ℕ) (coefficient : ℚ) : Expr :=
  assembleProduct (.ofRat coefficient) (powers exponents)

/-- The exponent of a power of a variable that stays a power. -/
theorem ofInt_natCast_ne
    {exponent : ℕ}
    (nonzero : exponent ≠ 0)
    (notOne : exponent ≠ 1) :
    Fraction.ofInt exponent ≠ 0 ∧ Fraction.ofInt exponent ≠ 1 := by
  constructor
  · intro isZero
    have : (exponent : ℤ) = 0 := congrArg Fraction.num isZero
    omega
  · intro isOne
    have : (exponent : ℤ) = 1 := congrArg Fraction.num isOne
    omega

theorem settled_ofPower {exponent : ℕ} (name : Symbol) (nonzero : exponent ≠ 0) :
    Settled (ofPower name exponent) := by
  unfold ofPower
  split
  · exact .symbol name
  · rename_i notOne
    obtain ⟨fractionNonzero, fractionNotOne⟩ := ofInt_natCast_ne nonzero notOne
    exact .power _ _ (.symbol name) nofun fractionNonzero fractionNotOne nofun

@[simp] theorem isNumber_ofPower (name : Symbol) (exponent : ℕ) :
    (ofPower name exponent).isNumber = false := by
  unfold ofPower
  split <;> rfl

theorem kind_ofPower_ne (name : Symbol) (exponent : ℕ) :
    (ofPower name exponent).kind ≠ .product ∧ (ofPower name exponent).kind ≠ .sum := by
  unfold ofPower
  split <;> exact ⟨nofun, nofun⟩

@[simp] theorem splitFactor_ofPower (name : Symbol) (exponent : ℕ) :
    splitFactor (ofPower name exponent) = (symbol name, .ofInt exponent) := by
  unfold ofPower
  split
  · rename_i isOne
    rw [isOne]
    rfl
  · rfl

/-- The factors of a canonical monomial, in canonical order. -/
theorem areFactors_powers {exponents : Symbol →₀ ℕ} (nonzero : exponents ≠ 0) :
    AreFactors (arrange (powers exponents)) := by
  have perm := perm_arrange (powers exponents)
  have each : ∀ factor ∈ arrange (powers exponents), IsPower factor :=
    fun factor member => isPower_of_mem_powers (perm.mem_iff.mp member)
  refine ⟨?_, pairwise_arrange _, ?_, ?_, ?_, ?_⟩
  · intro empty
    rw [empty, List.nil_perm] at perm
    simp [powers, nonzero] at perm
  · intro factor member
    obtain ⟨name, exponent, positive, rfl⟩ := each factor member
    exact settled_ofPower name positive
  · intro factor member
    obtain ⟨name, exponent, _, rfl⟩ := each factor member
    exact (kind_ofPower_ne name exponent).1
  · intro factor member
    obtain ⟨name, exponent, _, rfl⟩ := each factor member
    exact isNumber_ofPower name exponent
  · rw [(perm.map _).nodup_iff, powers, List.map_map]
    simp only [Function.comp_def, splitFactor_ofPower]
    exact exponents.support.nodup_toList.map fun _ _ equal => Expr.symbol.inj equal

theorem assembleProduct_perm
    {left right : List Expr}
    (coefficient : Fraction)
    (perm : left.Perm right) :
    assembleProduct coefficient left = assembleProduct coefficient right := by
  rw [assembleProduct, assembleProduct, productOfFactors_perm perm,
    productOfFactors_perm (perm.append_right [number coefficient])]

@[simp] theorem ofMonomial_zero_right (exponents : Symbol →₀ ℕ) : ofMonomial exponents 0 = 0 := by
  rw [ofMonomial, assembleProduct, if_pos Fraction.ofRat_zero]

@[simp] theorem ofMonomial_zero_left (coefficient : ℚ) :
    ofMonomial 0 coefficient = number (.ofRat coefficient) := by
  have empty : powers 0 = [] := by
    rw [powers, Finsupp.support_zero, Finset.toList_empty]
    rfl
  rw [ofMonomial, empty, assembleProduct]
  split
  · rename_i isZero
    rw [isZero]
    rfl
  · split
    · rename_i isOne
      rw [isOne]
      rfl
    · rfl

/-- A monomial with the coefficient one is the product of its powers. -/
theorem ofMonomial_one (exponents : Symbol →₀ ℕ) :
    ofMonomial exponents 1 = productOfFactors (arrange (powers exponents)) :=
  productOfFactors_perm (perm_arrange _).symm

/-- The terms without coefficients among canonical monomials. -/
theorem isTermPart_ofMonomial_one {exponents : Symbol →₀ ℕ} (nonzero : exponents ≠ 0) :
    IsTermPart (ofMonomial exponents 1) ∧
      (ofMonomial exponents 1).factors = arrange (powers exponents) := by
  rw [ofMonomial_one]
  exact (areFactors_powers nonzero).productOfFactors

/-- Giving a monomial a coefficient. -/
theorem scale_ofMonomial_one
    {exponents : Symbol →₀ ℕ}
    {coefficient : ℚ}
    (exponentsNonzero : exponents ≠ 0)
    (nonzero : coefficient ≠ 0)
    (notOne : coefficient ≠ 1) :
    scale (.ofRat coefficient) (ofMonomial exponents 1) = ofMonomial exponents coefficient := by
  obtain ⟨isPart, factorsEq⟩ := isTermPart_ofMonomial_one exponentsNonzero
  have fractionNonzero : Fraction.ofRat coefficient ≠ 0 := mt Fraction.ofRat_eq_zero_iff.mp nonzero
  have fractionNotOne : Fraction.ofRat coefficient ≠ 1 := mt Fraction.ofRat_eq_one_iff.mp notOne
  have settled := isPart.settled_scale fractionNonzero fractionNotOne
  rw [isPart.scale_eq, factorsEq] at settled ⊢
  rw [ofMonomial, assembleProduct, if_neg fractionNonzero, if_neg fractionNotOne]
  cases settled with
  | product _ several ordered =>
      refine (productOfFactors_eq_product ?_ several ordered).symm
      exact ((perm_arrange _).symm.append_right _).trans List.perm_append_comm

/-- A monomial with variables splits into its coefficient and the rest. -/
theorem splitTerm_ofMonomial
    {exponents : Symbol →₀ ℕ}
    {coefficient : ℚ}
    (exponentsNonzero : exponents ≠ 0)
    (nonzero : coefficient ≠ 0) :
    splitTerm (ofMonomial exponents coefficient) =
      (ofMonomial exponents 1, .ofRat coefficient) := by
  have isPart := (isTermPart_ofMonomial_one exponentsNonzero).1
  by_cases isOne : coefficient = 1
  · subst isOne
    exact isPart.splitTerm_eq
  · rw [← scale_ofMonomial_one exponentsNonzero nonzero isOne, isPart.splitTerm_scale]

/-- What a tallied coefficient leaves of a monomial. -/
theorem collectedTerm?_ofMonomial
    {exponents : Symbol →₀ ℕ}
    (exponentsNonzero : exponents ≠ 0)
    (coefficient : ℚ) :
    collectedTerm? (ofMonomial exponents 1, .ofRat coefficient) =
      if coefficient = 0 then none else some (ofMonomial exponents coefficient) := by
  unfold collectedTerm?
  simp only [Fraction.ofRat_eq_zero_iff, Fraction.ofRat_eq_one_iff]
  by_cases isZero : coefficient = 0
  · rw [if_pos isZero, if_pos isZero]
  · rw [if_neg isZero, if_neg isZero]
    by_cases isOne : coefficient = 1
    · rw [if_pos isOne, isOne]
    · rw [if_neg isOne, scale_ofMonomial_one exponentsNonzero isZero isOne]

/-! ## Values of monomials -/

theorem eval_ofPower {exponent : ℕ} (name : Symbol) (nonzero : exponent ≠ 0) :
    (ofPower name exponent).eval (MvPolynomial.X : Symbol → MvPolynomial Symbol ℚ) =
      some (MvPolynomial.X name ^ exponent) := by
  unfold ofPower
  split
  · rename_i isOne
    rw [eval_symbol, isOne, pow_one]
  · rw [eval_power, eval_symbol, Option.bind_some, rationalPower_ofInt,
      integerPower_of_pos _ (by omega), Int.toNat_natCast]

/-- The polynomial that an expression denotes, if all its parts do. -/
noncomputable def toPolynomial? (expr : Expr) : Option (MvPolynomial Symbol ℚ) :=
  expr.eval MvPolynomial.X

/-- The canonical expression of a monomial denotes the monomial. -/
@[simp] theorem toPolynomial?_ofMonomial (exponents : Symbol →₀ ℕ) (coefficient : ℚ) :
    (ofMonomial exponents coefficient).toPolynomial? =
      some (MvPolynomial.monomial exponents coefficient) := by
  have factors : strictProduct ((powers exponents).map (eval MvPolynomial.X)) =
      some (exponents.prod fun name exponent =>
        (MvPolynomial.X name : MvPolynomial Symbol ℚ) ^ exponent) := by
    rw [powers, List.map_map, Finsupp.prod, ← Finset.prod_map_toList]
    apply strictProduct_map_eq_some
    intro name inSupport
    exact eval_ofPower name (Finsupp.mem_support_iff.mp (Finset.mem_toList.mp inSupport))
  rw [toPolynomial?, ofMonomial, eval_assembleProduct _ factors, Fraction.toRat_ofRat,
    MvPolynomial.algebraMap_eq, MvPolynomial.monomial_eq]

/-- Different monomials have different canonical expressions. -/
theorem ofMonomial_one_injective : Function.Injective fun exponents => ofMonomial exponents 1 := by
  intro left right equal
  have values := congrArg toPolynomial? equal
  rw [toPolynomial?_ofMonomial, toPolynomial?_ofMonomial, Option.some.injEq,
    MvPolynomial.monomial_left_inj one_ne_zero] at values
  exact values

end Expr
end ExactAlgebra
