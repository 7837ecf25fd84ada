import ExactAlgebra.Expr.Build
import ExactAlgebra.Proofs.Fraction.Rational
import Mathlib.Algebra.Order.Ring.Rat

/-!
# The canonical order is a total order

Fractions are compared by value. Expressions of different kinds are compared by
rank, and expressions of the same kind lexicographically by their parts. So the
order is total and transitive, and only equal expressions compare equal. Hence the
arrangement of a list of operands depends on nothing but which operands it has,
and how often.
-/

namespace ExactAlgebra

namespace Fraction

theorem compare_swap (left right : Fraction) : left.compare right = (right.compare left).swap :=
  Std.OrientedOrd.eq_swap

theorem compare_eq_eq_iff (left right : Fraction) : left.compare right = .eq ↔ left = right := by
  rw [compare, Int.compare_eq_eq, ← toRat_inj, Rat.eq_iff_mul_eq_mul]
  rfl

theorem compare_eq_lt_iff (left right : Fraction) :
    left.compare right = .lt ↔ left.toRat < right.toRat := by
  rw [compare, Int.compare_eq_lt, Rat.lt_iff]
  rfl

theorem compare_lt_trans
    {first second third : Fraction}
    (left : first.compare second = .lt)
    (right : second.compare third = .lt) :
    first.compare third = .lt := by
  rw [compare_eq_lt_iff] at left right ⊢
  exact left.trans right

end Fraction

namespace Symbol

theorem compare_swap (left right : Symbol) :
    Ord.compare left right = (Ord.compare right left).swap :=
  @Std.OrientedOrd.eq_swap String _ _ left.text right.text

theorem compare_eq_eq_iff (left right : Symbol) : Ord.compare left right = .eq ↔ left = right := by
  have sameText : Ord.compare left right = .eq ↔ left.text = right.text :=
    @Std.compare_eq_iff_eq String _ _ left.text right.text
  rw [sameText]
  exact text_injective.eq_iff

theorem compare_lt_trans
    {first second third : Symbol}
    (left : Ord.compare first second = .lt)
    (right : Ord.compare second third = .lt) :
    Ord.compare first third = .lt :=
  @Std.TransCmp.lt_trans String Ord.compare _ first.text second.text third.text left right

end Symbol

namespace Expr

/-! ## Comparing lists -/

theorem compareAll_swap
    {left : List Expr}
    (members : ∀ operand ∈ left, ∀ other, compare operand other = (compare other operand).swap)
    (right : List Expr) :
    compareAll left right = (compareAll right left).swap := by
  induction left generalizing right with
  | nil => cases right <;> simp [compareAll]
  | cons head tail hypothesis =>
      cases right with
      | nil => simp [compareAll]
      | cons other others =>
          simp only [compareAll, Ordering.swap_then]
          rw [members head List.mem_cons_self other,
            hypothesis (fun operand member => members operand (List.mem_cons_of_mem _ member))]

theorem compareAll_eq_eq_iff
    {left : List Expr}
    (members : ∀ operand ∈ left, ∀ other, compare operand other = .eq ↔ operand = other)
    (right : List Expr) :
    compareAll left right = .eq ↔ left = right := by
  induction left generalizing right with
  | nil => cases right <;> simp [compareAll]
  | cons head tail hypothesis =>
      cases right with
      | nil => simp [compareAll]
      | cons other others =>
          rw [compareAll, Ordering.then_eq_eq, members head List.mem_cons_self,
            hypothesis (fun operand member => members operand (List.mem_cons_of_mem _ member)),
            List.cons.injEq]

theorem compareAll_lt_trans
    {first : List Expr}
    (members : ∀ operand ∈ first, ∀ second third,
      compare operand second = .lt → compare second third = .lt → compare operand third = .lt)
    (equal : ∀ left right, compare left right = .eq ↔ left = right)
    {second third : List Expr}
    (left : compareAll first second = .lt)
    (right : compareAll second third = .lt) :
    compareAll first third = .lt := by
  induction first generalizing second third with
  | nil =>
      cases third with
      | nil => cases second <;> simp [compareAll] at right
      | cons head tail => rfl
  | cons head tail hypothesis =>
      cases second with
      | nil => simp [compareAll] at left
      | cons middle middles =>
          cases third with
          | nil => simp [compareAll] at right
          | cons last lasts =>
              rw [compareAll, Ordering.then_eq_lt, equal] at left right ⊢
              rcases left with less | ⟨rfl, restLess⟩
              · rcases right with less' | ⟨rfl, _⟩
                · exact Or.inl (members head List.mem_cons_self middle last less less')
                · exact Or.inl less
              · rcases right with less' | ⟨rfl, restLess'⟩
                · exact Or.inl less'
                · refine Or.inr ⟨rfl, hypothesis ?_ restLess restLess'⟩
                  intro operand member
                  exact members operand (List.mem_cons_of_mem _ member)

/-! ## Comparing expressions -/

/-- Expressions of different kinds compare by rank. -/
theorem compare_of_kind_ne {left right : Expr} (differ : left.kind ≠ right.kind) :
    compare left right = Ord.compare left.kind.rank right.kind.rank := by
  cases left with
  | number value =>
      cases right with
      | number other => exact absurd rfl differ
      | _ => rfl
  | symbol name =>
      cases right with
      | symbol other => exact absurd rfl differ
      | _ => rfl
  | sum operands =>
      cases right with
      | sum others => exact absurd rfl differ
      | _ => rfl
  | product operands =>
      cases right with
      | product others => exact absurd rfl differ
      | _ => rfl
  | power base exponent =>
      cases right with
      | power other otherExponent => exact absurd rfl differ
      | _ => rfl

theorem Kind.rank_injective : Function.Injective Kind.rank := by
  intro left right equal
  cases left <;> cases right <;> cases equal <;> rfl

theorem compare_eq_eq_iff_of_kind_ne {left right : Expr} (differ : left.kind ≠ right.kind) :
    compare left right = .eq ↔ left = right := by
  rw [compare_of_kind_ne differ, Nat.compare_eq_eq]
  constructor
  · intro sameRank
    exact absurd (Kind.rank_injective sameRank) differ
  · intro equal
    rw [equal]

/-- Comparing in the other direction gives the opposite answer. -/
theorem compare_swap (left right : Expr) : compare left right = (compare right left).swap := by
  induction left generalizing right with
  | number value =>
      cases right with
      | number other => exact Fraction.compare_swap value other
      | _ => rfl
  | symbol name =>
      cases right with
      | symbol other => exact Symbol.compare_swap name other
      | _ => rfl
  | sum operands hypothesis =>
      cases right with
      | sum others => exact compareAll_swap hypothesis others
      | _ => rfl
  | product operands hypothesis =>
      cases right with
      | product others => exact compareAll_swap hypothesis others
      | _ => rfl
  | power base exponent hypothesis =>
      cases right with
      | power other otherExponent =>
          rw [compare, compare, Ordering.swap_then, hypothesis other,
            Fraction.compare_swap exponent]
      | _ => rfl

/-- Only equal expressions compare equal. -/
theorem compare_eq_eq_iff (left right : Expr) : compare left right = .eq ↔ left = right := by
  induction left generalizing right with
  | number value =>
      cases right with
      | number other =>
          rw [compare, Fraction.compare_eq_eq_iff, number.injEq]
      | _ => exact compare_eq_eq_iff_of_kind_ne nofun
  | symbol name =>
      cases right with
      | symbol other => rw [compare, Symbol.compare_eq_eq_iff, symbol.injEq]
      | _ => exact compare_eq_eq_iff_of_kind_ne nofun
  | sum operands hypothesis =>
      cases right with
      | sum others => rw [compare, compareAll_eq_eq_iff hypothesis, sum.injEq]
      | _ => exact compare_eq_eq_iff_of_kind_ne nofun
  | product operands hypothesis =>
      cases right with
      | product others => rw [compare, compareAll_eq_eq_iff hypothesis, product.injEq]
      | _ => exact compare_eq_eq_iff_of_kind_ne nofun
  | power base exponent hypothesis =>
      cases right with
      | power other otherExponent =>
          rw [compare, Ordering.then_eq_eq, hypothesis, Fraction.compare_eq_eq_iff,
            power.injEq]
      | _ => exact compare_eq_eq_iff_of_kind_ne nofun

/-- The lesser expression does not have the higher rank. -/
theorem rank_le_of_compare_eq_lt {left right : Expr} (less : compare left right = .lt) :
    left.kind.rank ≤ right.kind.rank := by
  by_cases same : left.kind = right.kind
  · rw [same]
  · rw [compare_of_kind_ne same, Nat.compare_eq_lt] at less
    exact less.le

theorem compare_eq_lt_of_rank_lt {left right : Expr} (less : left.kind.rank < right.kind.rank) :
    compare left right = .lt := by
  have differ : left.kind ≠ right.kind := fun same => less.ne (congrArg Kind.rank same)
  rw [compare_of_kind_ne differ, Nat.compare_eq_lt]
  exact less

/-- For transitivity only expressions of the same kind matter. -/
theorem compare_lt_trans_of_kind
    {first second third : Expr}
    (sameKind : first.kind = second.kind → second.kind = third.kind →
      compare first third = .lt)
    (left : compare first second = .lt)
    (right : compare second third = .lt) :
    compare first third = .lt := by
  have leftRank := rank_le_of_compare_eq_lt left
  have rightRank := rank_le_of_compare_eq_lt right
  by_cases below : first.kind.rank < third.kind.rank
  · exact compare_eq_lt_of_rank_lt below
  · exact sameKind (Kind.rank_injective (by omega)) (Kind.rank_injective (by omega))

theorem compare_lt_trans
    {first second third : Expr}
    (left : compare first second = .lt)
    (right : compare second third = .lt) :
    compare first third = .lt := by
  induction first generalizing second third with
  | number value =>
      refine compare_lt_trans_of_kind (fun firstKind thirdKind => ?_) left right
      cases second <;> cases firstKind
      cases third <;> cases thirdKind
      exact Fraction.compare_lt_trans left right
  | symbol name =>
      refine compare_lt_trans_of_kind (fun firstKind thirdKind => ?_) left right
      cases second <;> cases firstKind
      cases third <;> cases thirdKind
      exact Symbol.compare_lt_trans left right
  | sum operands hypothesis =>
      refine compare_lt_trans_of_kind (fun firstKind thirdKind => ?_) left right
      cases second <;> cases firstKind
      cases third <;> cases thirdKind
      exact compareAll_lt_trans (fun operand member _ _ => hypothesis operand member)
        compare_eq_eq_iff left right
  | product operands hypothesis =>
      refine compare_lt_trans_of_kind (fun firstKind thirdKind => ?_) left right
      cases second <;> cases firstKind
      cases third <;> cases thirdKind
      exact compareAll_lt_trans (fun operand member _ _ => hypothesis operand member)
        compare_eq_eq_iff left right
  | power base exponent hypothesis =>
      refine compare_lt_trans_of_kind (fun firstKind thirdKind => ?_) left right
      cases second with
      | power middle middleExponent =>
          cases third with
          | power last lastExponent =>
              rw [compare, Ordering.then_eq_lt, compare_eq_eq_iff] at left right ⊢
              rcases left with less | ⟨rfl, less⟩
              · rcases right with less' | ⟨rfl, _⟩
                · exact Or.inl (hypothesis less less')
                · exact Or.inl less
              · rcases right with less' | ⟨rfl, less'⟩
                · exact Or.inl less'
                · exact Or.inr ⟨rfl, Fraction.compare_lt_trans less less'⟩
          | _ => cases thirdKind
      | _ => cases firstKind

/-! ## The order on expressions -/

theorem le_iff (left right : Expr) :
    le left right = true ↔ compare left right = .lt ∨ left = right := by
  rw [le, Ordering.isLE_iff_eq_lt_or_eq_eq, compare_eq_eq_iff]

theorem le_trans
    (first second third : Expr)
    (left : le first second = true)
    (right : le second third = true) :
    le first third = true := by
  rw [le_iff] at left right ⊢
  rcases left with less | rfl
  · rcases right with less' | rfl
    · exact Or.inl (compare_lt_trans less less')
    · exact Or.inl less
  · exact right

theorem le_total (left right : Expr) : (le left right || le right left) = true := by
  rw [le, le, compare_swap right left]
  cases compare left right <;> rfl

theorem le_antisymm
    {left right : Expr}
    (forward : le left right = true)
    (backward : le right left = true) :
    left = right := by
  rw [← compare_eq_eq_iff]
  apply Ordering.eq_eq_of_isLE_of_isLE_swap forward
  rw [← compare_swap]
  exact backward

/-! ## Arranged operands -/

theorem pairwise_arrange (operands : List Expr) :
    (arrange operands).Pairwise (le · ·) :=
  Sorting.pairwise_sort le_trans le_total operands

theorem perm_arrange (operands : List Expr) : (arrange operands).Perm operands :=
  Sorting.perm_sort le operands

/-- An ordered list is the arrangement of every list with the same operands. -/
theorem arrange_eq_of_perm
    {operands ordered : List Expr}
    (perm : operands.Perm ordered)
    (sorted : ordered.Pairwise (le · ·)) :
    arrange operands = ordered :=
  ((perm_arrange operands).trans perm).eq_of_pairwise
    (fun _ _ _ _ forward backward => le_antisymm forward backward)
    (pairwise_arrange operands) sorted

/-- Lists with the same operands have the same arrangement. -/
theorem arrange_perm {left right : List Expr} (perm : left.Perm right) :
    arrange left = arrange right :=
  arrange_eq_of_perm (perm.trans (perm_arrange right).symm) (pairwise_arrange right)

theorem sumOf_perm {left right : List Expr} (perm : left.Perm right) : sumOf left = sumOf right :=
  congrArg sum (arrange_perm perm)

theorem productOf_perm {left right : List Expr} (perm : left.Perm right) :
    productOf left = productOf right :=
  congrArg product (arrange_perm perm)

theorem sumOfTerms_perm {left right : List Expr} (perm : left.Perm right) :
    sumOfTerms left = sumOfTerms right := by
  match left, right, perm.length_eq with
  | [], [], _ => rfl
  | [_], [_], _ => rw [List.singleton_perm_singleton.mp perm]
  | _ :: _ :: _, _ :: _ :: _, _ => exact sumOf_perm perm

theorem productOfFactors_perm {left right : List Expr} (perm : left.Perm right) :
    productOfFactors left = productOfFactors right := by
  match left, right, perm.length_eq with
  | [], [], _ => rfl
  | [_], [_], _ => rw [List.singleton_perm_singleton.mp perm]
  | _ :: _ :: _, _ :: _ :: _, _ => exact productOf_perm perm

/-- Several well-formed operands have a well-formed sum. -/
theorem WellFormed.sumOf
    {operands : List Expr}
    (several : 2 ≤ operands.length)
    (wellFormed : ∀ operand ∈ operands, WellFormed operand) :
    WellFormed (sumOf operands) := by
  refine .sum _ ?_ (pairwise_arrange operands) fun operand member => ?_
  · rwa [(perm_arrange operands).length_eq]
  · exact wellFormed operand ((perm_arrange operands).mem_iff.mp member)

/-- Several well-formed operands have a well-formed product. -/
theorem WellFormed.productOf
    {operands : List Expr}
    (several : 2 ≤ operands.length)
    (wellFormed : ∀ operand ∈ operands, WellFormed operand) :
    WellFormed (productOf operands) := by
  refine .product _ ?_ (pairwise_arrange operands) fun operand member => ?_
  · rwa [(perm_arrange operands).length_eq]
  · exact wellFormed operand ((perm_arrange operands).mem_iff.mp member)

end Expr
end ExactAlgebra
