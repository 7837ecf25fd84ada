import ExactAlgebra.Proofs.Integer.Root
import Mathlib.Algebra.Order.Ring.Abs
import Mathlib.Algebra.Ring.Int.Parity

/-!
# Perfect roots

The search for a root ends: zero and one need no search, and otherwise every Newton step
lowers a positive estimate until one of them does not. It ends at the root of the
magnitude of the radicand, rounded down. Whether a root is refused depends on the degree
and on the sign of the radicand only, and a root that is not refused is found exactly
when there is one.
-/

namespace ExactAlgebra
namespace Integer

/-! ## The search ends -/

/-- Newton's loop ends with a root after finitely many steps from an estimate. Every
estimate on the way is positive, so that the step from it may divide by its powers. -/
inductive DescendsTo (radicand degree : Nat) : Nat → Nat → Prop
  | stop
      (estimate : Nat)
      (positive : 0 < estimate)
      (stops : estimate ≤ newtonStep radicand degree estimate) :
      DescendsTo radicand degree estimate estimate
  | next
      (estimate root : Nat)
      (positive : 0 < estimate)
      (decreases : newtonStep radicand degree estimate < estimate)
      (rest : DescendsTo radicand degree (newtonStep radicand degree estimate) root) :
      DescendsTo radicand degree estimate root

/-- The search for a root ends with a number, for zero and one without any step. -/
inductive SearchEndsAt (radicand degree : Nat) : Nat → Prop
  | atOnce (small : radicand < 2) : SearchEndsAt radicand degree radicand
  | descent
      (root : Nat)
      (large : 2 ≤ radicand)
      (descends : DescendsTo radicand degree (rootCeiling radicand degree) root) :
      SearchEndsAt radicand degree root

variable {radicand degree estimate : Nat}

/-- The descent takes the steps of the loop and stops where the loop does. -/
theorem descendsTo_newtonDescent
    (radicandPositive : 0 < radicand)
    (degreePositive : 0 < degree)
    (positive : 0 < estimate) :
    DescendsTo radicand degree estimate (newtonDescent radicand degree estimate) := by
  fun_induction newtonDescent radicand degree estimate with
  | case1 estimate decreases hypothesis =>
      apply DescendsTo.next _ _ positive decreases
      exact hypothesis (newtonStep_pos radicandPositive degreePositive positive)
  | case2 estimate stops =>
      apply DescendsTo.stop _ positive
      exact not_lt.mp stops

/-- The search ends for every radicand. -/
theorem searchEndsAt_floorRoot (radicand : Nat) (degreePositive : 0 < degree) :
    SearchEndsAt radicand degree (floorRoot radicand degree) := by
  rw [floorRoot]
  split
  · rename_i small
    exact .atOnce small
  · rename_i large
    apply SearchEndsAt.descent _ (not_lt.mp large)
    exact descendsTo_newtonDescent (by omega) degreePositive (Nat.two_pow_pos _)

/-! ## What is refused -/

/-- A root is refused because of its degree, or because no real number has an even power
that is negative. -/
theorem perfectRoot_eq_error_iff {radicand degree : Int} {cause : RootError} :
    perfectRoot radicand degree = .error cause ↔
      (degree ≤ 0 ∧ cause = .degreeNotPositive) ∨
        (0 < degree ∧ radicand < 0 ∧ Even degree ∧ cause = .evenRootOfNegative) := by
  rw [perfectRoot, Int.even_iff]
  split
  · rename_i notPositive
    simp [notPositive, not_lt.mpr notPositive, eq_comm]
  · rename_i positive
    split
    · rename_i negativeAndEven
      simp [positive, negativeAndEven, not_le.mp positive, eq_comm]
    · rename_i real
      simp only [positive, reduceCtorEq, false_and, false_or, false_iff]
      rintro ⟨-, negative, even, -⟩
      exact real ⟨negative, even⟩

/-- A root that is not refused is looked for with the degree as a natural number. -/
theorem perfectRoot_of_real
    {radicand degree : Int}
    (positive : 0 < degree)
    (real : ¬(radicand < 0 ∧ Even degree)) :
    perfectRoot radicand degree = .ok (signedRoot? radicand degree.toNat) := by
  rw [perfectRoot, if_neg (not_le.mpr positive), if_neg]
  rwa [← Int.even_iff]

/-! ## What is found -/

/-- Nothing is found exactly when no integer has the radicand as its power. -/
theorem signedRoot?_eq_none_iff
    {radicand : Int}
    (degreePositive : 0 < degree)
    (real : ¬(degree % 2 = 0 ∧ radicand < 0)) :
    signedRoot? radicand degree = none ↔ ∀ root : Int, root ^ degree ≠ radicand := by
  rw [Option.eq_none_iff_forall_ne_some]
  constructor
  · intro noneFound root exact
    by_cases even : Even degree
    · -- Of the two roots with an even degree the search would have found this one.
      apply noneFound |root|
      rw [signedRoot?_eq_some_iff degreePositive real]
      exact ⟨(even.pow_abs root).trans exact, fun _ => abs_nonneg root⟩
    · apply noneFound root
      rw [signedRoot?_eq_some_iff degreePositive real]
      exact ⟨exact, fun isEven => absurd isEven even⟩
  · intro noRoot root found
    exact noRoot root ((signedRoot?_eq_some_iff degreePositive real).mp found).1

/-- Perfect roots are exact for integers of any size. They are refused exactly when the
degree is not positive and for even degrees of negative radicands. In all other cases the
search ends at the root of the magnitude, rounded down; the integer whose power is the
radicand is found exactly when there is one, the one that is not negative for an even
degree; and nothing is found exactly when there is none. -/
theorem perfectRoot_exact (radicand degree : Int) :
    ((∃ cause, perfectRoot radicand degree = .error cause) ↔
        degree ≤ 0 ∨ (radicand < 0 ∧ Even degree)) ∧
      (¬(degree ≤ 0 ∨ (radicand < 0 ∧ Even degree)) →
        SearchEndsAt radicand.natAbs degree.toNat (floorRoot radicand.natAbs degree.toNat) ∧
          IsFloorRoot radicand.natAbs degree.toNat (floorRoot radicand.natAbs degree.toNat) ∧
          (∀ root, perfectRoot radicand degree = .ok (some root) ↔
            root ^ degree.toNat = radicand ∧ (Even degree → 0 ≤ root)) ∧
          (perfectRoot radicand degree = .ok none ↔
            ¬∃ root : Int, root ^ degree.toNat = radicand)) := by
  constructor
  · simp only [perfectRoot_eq_error_iff]
    constructor
    · rintro ⟨_, ⟨notPositive, -⟩ | ⟨-, negative, even, -⟩⟩
      · exact .inl notPositive
      · exact .inr ⟨negative, even⟩
    · intro refused
      by_cases positive : 0 < degree
      · obtain ⟨negative, even⟩ := refused.resolve_left (not_le.mpr positive)
        exact ⟨_, .inr ⟨positive, negative, even, rfl⟩⟩
      · exact ⟨_, .inl ⟨not_lt.mp positive, rfl⟩⟩
  · rw [not_or, not_le]
    rintro ⟨positive, real⟩
    have degreePositive : 0 < degree.toNat := Int.pos_iff_toNat_pos.mp positive
    have sameParity : Even degree.toNat ↔ Even degree := by
      rw [← Int.even_coe_nat, Int.toNat_of_nonneg positive.le]
    have naturalReal : ¬(degree.toNat % 2 = 0 ∧ radicand < 0) := by
      rw [← Nat.even_iff, sameParity, and_comm]
      exact real
    refine ⟨searchEndsAt_floorRoot _ degreePositive, isFloorRoot_floorRoot _ degreePositive, ?_, ?_⟩
    · intro root
      rw [perfectRoot_of_real positive real, Except.ok.injEq,
        signedRoot?_eq_some_iff degreePositive naturalReal, sameParity]
    · rw [perfectRoot_of_real positive real, Except.ok.injEq,
        signedRoot?_eq_none_iff degreePositive naturalReal, not_exists]

/-- The cube root of a negative number, found by a descent in several steps. -/
theorem perfectRoot_exact_minusOneThousand :
    ¬((3 : Int) ≤ 0 ∨ ((-1000 : Int) < 0 ∧ Even (3 : Int))) ∧
      SearchEndsAt 1000 3 (floorRoot 1000 3) ∧ perfectRoot (-1000) 3 = .ok (some (-10)) := by
  have real : ¬((3 : Int) ≤ 0 ∨ ((-1000 : Int) < 0 ∧ Even (3 : Int))) := by decide
  obtain ⟨ends, -, found, -⟩ := (perfectRoot_exact (-1000) 3).2 real
  exact ⟨real, ends, (found (-10)).mpr ⟨by decide, fun even => absurd even (by decide)⟩⟩

end Integer
end ExactAlgebra
