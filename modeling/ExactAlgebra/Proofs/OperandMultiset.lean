import ExactAlgebra.Proofs.CanonicalOrder

/-!
# Sums and products as multisets of operands

The canonical order is total, and only equal expressions compare equal. So a list has one
sorted arrangement, and two sums are equal exactly when their operands are the same up to
their order. The same holds of products. A difference adds the negatives of what is
subtracted, and a quotient multiplies by the inverses of the divisors. An expression can be
read off its negative and off its inverse, so that neither forgets more than the order.
-/

namespace ExactAlgebra
namespace Expr

variable {left right : List Expr}

/-- Lists have the same arrangement exactly when they have the same members, each as
often. -/
theorem arrange_eq_arrange_iff : arrange left = arrange right ↔ left.Perm right := by
  refine ⟨fun equal => ?_, arrange_perm⟩
  have sameMembers := perm_arrange left
  rw [equal] at sameMembers
  exact sameMembers.symm.trans (perm_arrange right)

theorem sumOf_eq_sumOf_iff : sumOf left = sumOf right ↔ left.Perm right := by
  rw [sumOf, sumOf, sum.injEq, arrange_eq_arrange_iff]

theorem productOf_eq_productOf_iff : productOf left = productOf right ↔ left.Perm right := by
  rw [productOf, productOf, product.injEq, arrange_eq_arrange_iff]

/-! ## Negatives and inverses -/

/-- An expression can be read off its negative. -/
theorem negative_injective : Function.Injective fun other => productOf [minusOne, other] := by
  intro first second equal
  have operands := productOf_eq_productOf_iff.mp equal
  exact List.singleton_perm_singleton.mp ((List.perm_cons minusOne).mp operands)

/-- An expression can be read off its inverse. -/
theorem inverse_injective : Function.Injective fun other => power other (-1) := by
  intro first second equal
  exact (power.inj equal).1

theorem difference_eq_difference_iff (first : Expr) :
    difference first left = difference first right ↔ left.Perm right := by
  rw [difference, difference, sumOf_eq_sumOf_iff, List.perm_cons,
    List.map_perm_map_iff negative_injective]

theorem quotient_eq_quotient_iff (first : Expr) :
    quotient first left = quotient first right ↔ left.Perm right := by
  rw [quotient, quotient, productOf_eq_productOf_iff, List.perm_cons,
    List.map_perm_map_iff inverse_injective]

/-! ## All four operations -/

/-- Two sums are equal exactly when the operands of one are a permutation of those of the
other, and so are two products. Permuting what is subtracted from an expression, or what
an expression is divided by, changes nothing, and anything else does. -/
theorem operations_eq_iff_perm (left right : List Expr) :
    (sumOf left = sumOf right ↔ right.Perm left) ∧
      (productOf left = productOf right ↔ right.Perm left) ∧
        ∀ first,
          (difference first left = difference first right ↔ right.Perm left) ∧
            (quotient first left = quotient first right ↔ right.Perm left) := by
  rw [List.perm_comm]
  exact ⟨sumOf_eq_sumOf_iff, productOf_eq_productOf_iff,
    fun first => ⟨difference_eq_difference_iff first, quotient_eq_quotient_iff first⟩⟩

end Expr
end ExactAlgebra
