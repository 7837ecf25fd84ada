import ExactAlgebra.Integer.Root
import Mathlib.Analysis.SpecialFunctions.Pow.NthRootLemmas

/-!
# Newton's descent finds the floor of a root

A Newton step never falls below the root, by the inequality of the arithmetic and the
geometric mean, and an estimate that a step does not lower is not above the root. So
the descent from an estimate above the root ends at the floor of the root, and a number
has an exact root exactly when the power of this floor gives the number back.
-/

namespace ExactAlgebra
namespace Integer

variable {radicand degree estimate : Nat}

/-- The number is the root of the radicand, rounded down. -/
structure IsFloorRoot (radicand degree root : Nat) : Prop where
  pow_le : root ^ degree ≤ radicand
  lt_pow_succ : radicand < (root + 1) ^ degree

/-- A number has one root when it is rounded down. -/
theorem IsFloorRoot.eq_nthRoot {root : Nat} (isRoot : IsFloorRoot radicand degree root) :
    root = Nat.nthRoot degree radicand :=
  (Nat.nthRoot_eq_of_le_of_lt isRoot.pow_le isRoot.lt_pow_succ).symm

/-! ## One step -/

/-- A Newton step from a positive estimate does not fall below the root. -/
theorem lt_newtonStep_succ_pow (degreePositive : 0 < degree) (positive : 0 < estimate) :
    radicand < (newtonStep radicand degree estimate + 1) ^ degree := by
  obtain ⟨rest, rfl⟩ := Nat.exists_eq_add_one_of_ne_zero degreePositive.ne'
  have bound := @Nat.nthRoot.lt_pow_go_succ_aux rest radicand estimate positive.ne'
  rw [newtonStep, Nat.add_sub_cancel, Nat.add_comm (rest * estimate)]
  exact bound

/-- A Newton step from a positive estimate leads to a positive estimate. -/
theorem newtonStep_pos
    (radicandPositive : 0 < radicand)
    (degreePositive : 0 < degree)
    (positive : 0 < estimate) :
    0 < newtonStep radicand degree estimate := by
  have bound : radicand < (newtonStep radicand degree estimate + 1) ^ degree :=
    lt_newtonStep_succ_pow degreePositive positive
  rw [Nat.pos_iff_ne_zero]
  intro vanishes
  rw [vanishes, Nat.zero_add, one_pow] at bound
  omega

/-- An estimate that a Newton step does not lower is not above the root. -/
theorem pow_le_of_le_newtonStep
    (degreePositive : 0 < degree)
    (stops : estimate ≤ newtonStep radicand degree estimate) :
    estimate ^ degree ≤ radicand := by
  obtain ⟨rest, rfl⟩ := Nat.exists_eq_add_one_of_ne_zero degreePositive.ne'
  rw [newtonStep, Nat.add_sub_cancel] at stops
  have total : estimate * (rest + 1) ≤ rest * estimate + radicand / estimate ^ rest :=
    Nat.mul_le_of_le_div _ _ _ stops
  have quotient : estimate ≤ radicand / estimate ^ rest := by
    rw [Nat.mul_add_one, Nat.mul_comm] at total
    omega
  rw [pow_succ']
  exact Nat.mul_le_of_le_div _ _ _ quotient

/-! ## The descent -/

/-- The descent from an estimate above the root ends at the root, rounded down. -/
theorem isFloorRoot_newtonDescent
    (radicandPositive : 0 < radicand)
    (degreePositive : 0 < degree)
    (positive : 0 < estimate)
    (above : radicand < (estimate + 1) ^ degree) :
    IsFloorRoot radicand degree (newtonDescent radicand degree estimate) := by
  fun_induction newtonDescent radicand degree estimate with
  | case1 estimate decreases hypothesis =>
      exact hypothesis (newtonStep_pos radicandPositive degreePositive positive)
        (lt_newtonStep_succ_pow degreePositive positive)
  | case2 estimate stops =>
      exact ⟨pow_le_of_le_newtonStep degreePositive (not_lt.mp stops), above⟩

theorem lt_two_pow_bitLength (number : Nat) : number < 2 ^ bitLength number := by
  rw [bitLength]
  split
  · rename_i zero
    rw [zero]
    exact Nat.two_pow_pos 0
  · exact Nat.lt_log2_self

/-- The first estimate is above the root. -/
theorem lt_rootCeiling_succ_pow (degreePositive : 0 < degree) :
    radicand < (rootCeiling radicand degree + 1) ^ degree := by
  have roundedUp : bitLength radicand ≤ (bitLength radicand + degree - 1) / degree * degree := by
    have remainder := Nat.mod_lt (bitLength radicand + degree - 1) degreePositive
    have division := Nat.div_add_mod' (bitLength radicand + degree - 1) degree
    omega
  calc radicand
      < 2 ^ bitLength radicand := lt_two_pow_bitLength radicand
    _ ≤ 2 ^ ((bitLength radicand + degree - 1) / degree * degree) :=
        Nat.pow_le_pow_right Nat.two_pos roundedUp
    _ = rootCeiling radicand degree ^ degree := Nat.pow_mul _ _ _
    _ ≤ (rootCeiling radicand degree + 1) ^ degree :=
        Nat.pow_le_pow_left (Nat.le_succ _) degree

/-- Zero and one are their own powers. -/
theorem pow_eq_self_of_lt_two (degreePositive : 0 < degree) (small : radicand < 2) :
    radicand ^ degree = radicand := by
  have zeroOrOne : radicand = 0 ∨ radicand = 1 := by omega
  rcases zeroOrOne with rfl | rfl
  · exact zero_pow degreePositive.ne'
  · exact one_pow degree

/-- The floor of a root is what the search for it finds. -/
theorem isFloorRoot_floorRoot (radicand : Nat) (degreePositive : 0 < degree) :
    IsFloorRoot radicand degree (floorRoot radicand degree) := by
  rw [floorRoot]
  split
  · rename_i small
    exact ⟨(pow_eq_self_of_lt_two degreePositive small).le,
      (Nat.lt_succ_self _).trans_le (Nat.le_self_pow degreePositive.ne' _)⟩
  · exact isFloorRoot_newtonDescent (by omega) degreePositive (Nat.two_pow_pos _)
      (lt_rootCeiling_succ_pow degreePositive)

/-! ## Exact roots -/

/-- Zero and one pass the test that a root has to pass, so it may be made for all
radicands alike. -/
theorem exactRoot?_eq (radicand : Nat) (degreePositive : 0 < degree) :
    exactRoot? radicand degree =
      if floorRoot radicand degree ^ degree = radicand then some (floorRoot radicand degree)
      else none := by
  rw [exactRoot?]
  split
  · rename_i small
    have ownRoot : floorRoot radicand degree = radicand := if_pos small
    rw [ownRoot, if_pos (pow_eq_self_of_lt_two degreePositive small)]
  · rfl

/-- The exact root of a natural number is found exactly when there is one. -/
theorem exactRoot?_eq_some_iff {root : Nat} (degreePositive : 0 < degree) :
    exactRoot? radicand degree = some root ↔ root ^ degree = radicand := by
  rw [exactRoot?_eq radicand degreePositive, Option.ite_none_right_eq_some, Option.some.injEq]
  constructor
  · rintro ⟨exact, rfl⟩
    exact exact
  · rintro rfl
    have isRoot := isFloorRoot_floorRoot (root ^ degree) degreePositive
    have found : floorRoot (root ^ degree) degree = root := by
      rw [isRoot.eq_nthRoot, Nat.nthRoot_pow degreePositive.ne']
    exact ⟨by rw [found], found⟩

/-- The root of an integer has the sign of the integer and the root of its magnitude. -/
theorem signedRoot?_eq_map (radicand : Int) (degree : Nat) :
    signedRoot? radicand degree =
      (exactRoot? radicand.natAbs degree).map fun magnitude : Nat =>
        if radicand < 0 then -(magnitude : Int) else magnitude := by
  rw [signedRoot?]
  cases exactRoot? radicand.natAbs degree <;> rfl

/-- The integer whose power is the radicand is found exactly when there is one. Of two
roots with an even degree it is the one that is not negative. -/
theorem signedRoot?_eq_some_iff
    {radicand root : Int}
    (degreePositive : 0 < degree)
    (real : ¬(degree % 2 = 0 ∧ radicand < 0)) :
    signedRoot? radicand degree = some root ↔
      root ^ degree = radicand ∧ (Even degree → 0 ≤ root) := by
  have found (magnitude : Nat) :
      exactRoot? radicand.natAbs degree = some magnitude ↔ magnitude ^ degree = radicand.natAbs :=
    exactRoot?_eq_some_iff degreePositive
  rw [signedRoot?_eq_map, Option.map_eq_some_iff]
  by_cases negative : radicand < 0
  · have odd : Odd degree := by
      rw [← Nat.not_even_iff_odd, Nat.even_iff]
      exact fun even => real ⟨even, negative⟩
    simp only [if_pos negative]
    constructor
    · rintro ⟨magnitude, exact, rfl⟩
      have power : ((magnitude ^ degree : Nat) : Int) = radicand.natAbs :=
        congrArg Nat.cast ((found magnitude).mp exact)
      refine ⟨?_, fun even => absurd odd (Nat.not_odd_iff_even.mpr even)⟩
      rw [odd.neg_pow, ← Nat.cast_pow, power]
      omega
    · rintro ⟨rfl, -⟩
      have rootNegative : root < 0 := odd.pow_neg_iff.mp negative
      refine ⟨root.natAbs, (found _).mpr (Int.natAbs_pow root degree).symm, ?_⟩
      omega
  · simp only [if_neg negative]
    constructor
    · rintro ⟨magnitude, exact, rfl⟩
      have power : ((magnitude ^ degree : Nat) : Int) = radicand.natAbs :=
        congrArg Nat.cast ((found magnitude).mp exact)
      refine ⟨?_, fun _ => Int.natCast_nonneg magnitude⟩
      rw [← Nat.cast_pow, power]
      omega
    · rintro ⟨rfl, nonnegative⟩
      have rootNonnegative : 0 ≤ root := by
        rcases Nat.even_or_odd degree with even | odd
        · exact nonnegative even
        · exact odd.pow_nonneg_iff.mp (not_lt.mp negative)
      refine ⟨root.natAbs, (found _).mpr (Int.natAbs_pow root degree).symm, ?_⟩
      omega

end Integer
end ExactAlgebra
