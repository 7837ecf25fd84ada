import ExactAlgebra.Proofs.Evaluation.Basic
import ExactAlgebra.Rewrite.Weight

/-!
# Simplification terminates

Simplifying an expression calls for its direct parts, but also for powers that are made on
the way: their bases are results of simplification, which need not occur in the expression
and may have more nodes and be nested deeper than the parts they come from. All the same
they weigh less than the whole. So no chain of calls goes on forever, and what holds of an
expression as soon as it holds of all that it calls for holds of every expression.

A step looks at nothing that it does not call for. So the weight of an expression also
bounds how deep its calls are nested: what would become of deeper calls does not matter.
-/

namespace ExactAlgebra
namespace Simplify

open ExactAlgebra.Expr

theorem wellFounded_calls : WellFounded fun part whole => Calls Expr.simplify whole part :=
  Subrelation.wf (Calls.weight_lt fun _ _ => weight_simplify_le) (measure weight).wf

/-- What holds of an expression if it holds of all that it calls for holds of every
expression. -/
theorem calls_induction
    {property : Expr → Prop}
    (inherited : ∀ whole,
      (∀ part, Calls Expr.simplify whole part → property part) → property whole)
    (expr : Expr) :
    property expr :=
  wellFounded_calls.induction expr inherited

/-- Simplify with calls nested down to a depth, and leave deeper ones to `beyond`. -/
def within (beyond : Expr → Except RewriteError Expr) : Nat → Expr → Except RewriteError Expr
  | 0, expr => beyond expr
  | depth + 1, expr => step (within beyond depth) expr

/-- If all that an expression calls for is simplified, a step simplifies the expression. -/
theorem step_eq_simplify
    {simplifyPart : Expr → Except RewriteError Expr}
    {whole : Expr}
    (agree : ∀ part, Calls Expr.simplify whole part → simplifyPart part = part.simplify) :
    step simplifyPart whole = whole.simplify := by
  rw [simplify_eq_step]
  exact (step_congr_of_calls fun part calls => (agree part calls).symm).symm

/-- Calls are not nested deeper than the expression weighs. -/
theorem within_eq_simplify
    (beyond : Expr → Except RewriteError Expr)
    {depth : Nat}
    {expr : Expr}
    (enough : expr.weight < depth) :
    within beyond depth expr = expr.simplify := by
  induction depth generalizing expr with
  | zero => omega
  | succ depth hypothesis =>
      refine step_eq_simplify fun part calls => hypothesis ?_
      have lighter := calls.weight_lt fun _ _ => weight_simplify_le
      omega

end Simplify

namespace Expr

open Simplify

/-- Simplification terminates. It makes no expression heavier, and everything that an
expression calls for is lighter than the expression, so that the calls are well-founded. A
step needs nothing but what it calls for, and the calls of an expression are nested no
deeper than its weight, whatever would become of deeper ones. -/
theorem simplify_terminates :
    (∀ expr result : Expr, expr.simplify = .ok result → result.weight ≤ expr.weight) ∧
      (∀ whole part : Expr, Calls simplify whole part → part.weight < whole.weight) ∧
      (WellFounded fun part whole => Calls simplify whole part) ∧
      (∀ (simplifyPart : Expr → Except RewriteError Expr) (whole : Expr),
        (∀ part, Calls simplify whole part → simplifyPart part = part.simplify) →
          step simplifyPart whole = whole.simplify) ∧
      ∀ (beyond : Expr → Except RewriteError Expr) (depth : Nat) (expr : Expr),
        expr.weight < depth → within beyond depth expr = expr.simplify := by
  refine ⟨fun _ _ => weight_simplify_le, fun _ _ => ?_, wellFounded_calls, fun _ _ => ?_, ?_⟩
  · exact Calls.weight_lt fun _ _ => weight_simplify_le
  · exact step_eq_simplify
  · exact fun beyond _ _ => within_eq_simplify beyond

/-- The cube of the square of `x + x + y + y`. -/
def nestedPowerOfSum : Expr :=
  power (power (sumOf [symbol .x, symbol .x, symbol .y, symbol .y]) (.ofInt 2)) (.ofInt 3)

/-- The sum `2 * x + 2 * y`. -/
def collectedSum : Expr :=
  sumOf [productOf [number (.ofInt 2), symbol .x], productOf [number (.ofInt 2), symbol .y]]

/-- The cube calls for a power of the collected sum, which has more nodes and is deeper than
the sum it comes from, and lighter than the whole. -/
theorem simplify_terminates_nestedPowerOfSum :
    Calls simplify nestedPowerOfSum (power collectedSum (.ofInt 6)) ∧
      (power collectedSum (.ofInt 6)).weight < nestedPowerOfSum.weight ∧
      (power collectedSum (.ofInt 6)).simplify = .ok (power collectedSum (.ofInt 6)) ∧
      nestedPowerOfSum.weight < 8 ∧
      within (fun _ => .error .zeroToTheZero) 8 nestedPowerOfSum =
        .ok (power collectedSum (.ofInt 6)) := by
  obtain ⟨_, lighter, _, _, bounded⟩ := simplify_terminates
  have product : Fraction.ofInt 2 * .ofInt 3 = .ofInt 6 := by decide +kernel
  have simplified : (power (sumOf [symbol .x, symbol .x, symbol .y, symbol .y])
      (.ofInt 2)).simplify = .ok (power collectedSum (.ofInt 2)) := by decide +kernel
  have calls : Calls simplify nestedPowerOfSum (power collectedSum (.ofInt 2 * .ofInt 3)) :=
    .nested simplified (by decide) (by decide)
  have success : nestedPowerOfSum.simplify = .ok (power collectedSum (.ofInt 6)) := by
    decide +kernel
  have enough : nestedPowerOfSum.weight < 8 := by decide +kernel
  rw [product] at calls
  exact ⟨calls, lighter _ _ calls, by decide +kernel, enough, success ▸ bounded _ _ _ enough⟩

end Expr
end ExactAlgebra
