import ExactAlgebra.Input.Polish
import ExactAlgebra.Proofs.Evaluation.Basic
import ExactAlgebra.Proofs.WellFormed.Rewriting
import ExactAlgebra.Workbench.ProgramStep

/-!
# Everything that is read is well formed

Both readers build expressions from leaves and from operands that were read before,
with operators that get at least two operands. So whatever is on the stack of one
reader, or in the program of the other, is well formed after every word and every
line. Together with the passes this makes well-formedness an invariant of the whole
library.
-/

namespace ExactAlgebra

/-- What a failing step keeps, a failing run keeps. -/
theorem holds_of_foldlM_eq_ok
    {step : σ → α → Except ε σ}
    {invariant : σ → Prop}
    (kept : ∀ state input next, invariant state → step state input = .ok next → invariant next)
    {inputs : List α}
    {start final : σ}
    (initial : invariant start)
    (success : inputs.foldlM step start = .ok final) :
    invariant final := by
  induction inputs generalizing start with
  | nil =>
      cases success
      exact initial
  | cons input inputs hypothesis =>
      rw [List.foldlM_cons] at success
      obtain ⟨next, first, rest⟩ := except_bind_eq_ok success
      exact hypothesis (kept start input next initial first) rest

namespace Input

open ExactAlgebra.Expr

theorem wellFormed_readLeaf?
    {token : String}
    {leaf : Expr}
    (found : readLeaf? token = some leaf) :
    WellFormed leaf := by
  unfold readLeaf? at found
  split at found
  · cases found
    exact .symbol _
  · obtain ⟨value, _, rfl⟩ := Option.map_eq_some_iff.mp found
    exact .number _

theorem wellFormed_raise
    {format : Format}
    {base exponent result : Expr}
    (wellFormed : WellFormed base)
    (success : raise format base exponent = .ok result) :
    WellFormed result := by
  unfold raise at success
  split at success
  · rename_i power raised
    cases success
    obtain ⟨value, _, last⟩ := except_bind_eq_ok raised
    cases last
    exact .power base value wellFormed
  · cases success
  · cases success

theorem wellFormed_raiseAll
    {format : Format}
    {base result : Expr}
    {others : List Expr}
    (wellFormed : WellFormed base)
    (success : raiseAll format base others = .ok result) :
    WellFormed result := by
  cases others with
  | nil =>
      cases success
      exact wellFormed
  | cons next others =>
      obtain ⟨exponent, _, raised⟩ := except_bind_eq_ok success
      exact wellFormed_raise wellFormed raised

/-- An operator makes a well-formed expression of well-formed operands. -/
theorem wellFormed_combine
    {format : Format}
    {operator : Operator}
    {operands : List Expr}
    {result : Expr}
    (wellFormed : ∀ operand ∈ operands, WellFormed operand)
    (success : combine format operator operands = .ok result) :
    WellFormed result := by
  match operands with
  | [] => cases success
  | [_] => cases success
  | first :: second :: others =>
      obtain ⟨firstWellFormed, othersWellFormed⟩ := List.forall_mem_cons.mp wellFormed
      cases operator with
      | plus =>
          cases success
          exact .sumOf (by simp) wellFormed
      | minus =>
          cases success
          refine .sumOf (by simp) (List.forall_mem_cons.mpr ⟨firstWellFormed, ?_⟩)
          intro term member
          obtain ⟨other, inOthers, rfl⟩ := List.mem_map.mp member
          refine .productOf (by simp) ?_
          simp [minusOne, WellFormed.number, othersWellFormed other inOthers]
      | times =>
          cases success
          exact .productOf (by simp) wellFormed
      | slash =>
          cases success
          refine .productOf (by simp) (List.forall_mem_cons.mpr ⟨firstWellFormed, ?_⟩)
          intro factor member
          obtain ⟨other, inOthers, rfl⟩ := List.mem_map.mp member
          exact .power other (-1) (othersWellFormed other inOthers)
      | caret => exact wellFormed_raiseAll firstWellFormed success

/-! ## Polish notation -/

namespace Polish

/-- Reading a word keeps the stack well formed. -/
theorem wellFormed_push
    (stack : List Expr)
    (token : String)
    (next : List Expr)
    (wellFormed : ∀ expr ∈ stack, WellFormed expr)
    (success : push stack token = .ok next) :
    ∀ expr ∈ next, WellFormed expr := by
  unfold push at success
  split at success
  · split at success
    · rename_i left right rest
      obtain ⟨leftWellFormed, others⟩ := List.forall_mem_cons.mp wellFormed
      obtain ⟨rightWellFormed, restWellFormed⟩ := List.forall_mem_cons.mp others
      obtain ⟨result, combined, last⟩ := except_bind_eq_ok success
      cases last
      have both : ∀ operand ∈ [left, right], WellFormed operand := by
        simp [leftWellFormed, rightWellFormed]
      exact List.forall_mem_cons.mpr ⟨wellFormed_combine both combined, restWellFormed⟩
    · cases success
  · split at success
    · rename_i leaf found
      cases success
      exact List.forall_mem_cons.mpr ⟨wellFormed_readLeaf? found, wellFormed⟩
    · cases success

theorem wellFormed_parse
    {text : String}
    {expr : Expr}
    (success : parse text = .ok expr) :
    WellFormed expr := by
  obtain ⟨stack, read, last⟩ := except_bind_eq_ok success
  have wellFormed : ∀ expr ∈ stack, WellFormed expr :=
    holds_of_foldlM_eq_ok wellFormed_push (List.forall_mem_nil _) read
  match stack with
  | [] => cases last
  | [_] =>
      cases last
      exact wellFormed _ List.mem_cons_self
  | _ :: _ :: _ => cases last

end Polish

/-! ## Straight-line programs -/

namespace Program

/-- All expressions that the program has defined are well formed. -/
def WellFormed (program : Program) : Prop :=
  ∀ expr ∈ program.expressions, expr.WellFormed

theorem wellFormed_empty : empty.WellFormed :=
  nofun

variable {program : Program}

theorem WellFormed.append
    (wellFormed : program.WellFormed)
    {expr : Expr}
    (exprWellFormed : expr.WellFormed) :
    (program.append expr).WellFormed := by
  intro defined member
  rcases List.mem_append.mp member with earlier | last
  · exact wellFormed defined earlier
  · exact List.mem_singleton.mp last ▸ exprWellFormed

theorem WellFormed.resolve
    (wellFormed : program.WellFormed)
    {argument : String}
    {expr : Expr}
    (success : program.resolve argument = .ok expr) :
    expr.WellFormed := by
  unfold Program.resolve at success
  split at success
  · cases success
  · split at success
    · cases success
    · split at success
      · cases success
      · rename_i found
        cases success
        exact wellFormed _ (List.mem_of_getElem? found)

/-- A line defines a well-formed expression. -/
theorem WellFormed.readLine
    (wellFormed : program.WellFormed)
    {line : String}
    {expr : Expr}
    (success : program.readLine line = .ok expr) :
    expr.WellFormed := by
  unfold Program.readLine readWords at success
  split at success
  · cases success
  · split at success
    · rename_i leaf found
      cases success
      exact wellFormed_readLeaf? found
    · cases success
  · cases success
  · split at success
    · cases success
    · obtain ⟨operands, resolved, combined⟩ := except_bind_eq_ok success
      refine wellFormed_combine (fun operand member => ?_) combined
      obtain ⟨argument, _, found⟩ := exists_of_mem_mapM resolved member
      exact wellFormed.resolve found

/-- Reading a line keeps the program well formed. -/
theorem wellFormed_define
    (program : Program)
    (line : String)
    (next : Program)
    (wellFormed : program.WellFormed)
    (success : program.define line = .ok next) :
    next.WellFormed := by
  obtain ⟨expr, read, last⟩ := except_bind_eq_ok success
  cases last
  exact wellFormed.append (wellFormed.readLine read)

theorem wellFormed_parse
    {lines : List String}
    {expr : Expr}
    (success : parse lines = .ok expr) :
    expr.WellFormed := by
  obtain ⟨program, read, last⟩ := except_bind_eq_ok success
  have wellFormed : program.WellFormed :=
    holds_of_foldlM_eq_ok wellFormed_define wellFormed_empty read
  split at last
  · rename_i found
    cases last
    exact wellFormed _ (List.mem_of_getLast? found)
  · cases last

end Program
end Input

/-! ## Work on one program -/

namespace Workbench
namespace ProgramStep

/-- The program after a sequence of steps, of which some may fail. -/
def runAll (program : Input.Program) (steps : List ProgramStep) : Input.Program :=
  steps.foldl (fun current step => (run current step).1) program

/-- A step keeps the program well formed, whether it fails or not. -/
theorem wellFormed_run
    {program : Input.Program}
    (wellFormed : program.WellFormed)
    (step : ProgramStep) :
    (run program step).1.WellFormed := by
  cases step with
  | define line =>
      simp only [run, runDefine]
      split
      · exact wellFormed
      · split
        · rename_i read
          exact wellFormed.append (wellFormed.readLine read)
        · exact wellFormed
  | last =>
      simp only [run]
      split <;> exact wellFormed
  | reset => exact Input.Program.wellFormed_empty
  | get position => exact wellFormed
  | all => exact wellFormed
  | describe => exact wellFormed
  | nonempty => exact wellFormed

theorem wellFormed_runAll
    {program : Input.Program}
    (wellFormed : program.WellFormed)
    (steps : List ProgramStep) :
    (runAll program steps).WellFormed := by
  induction steps generalizing program with
  | nil => exact wellFormed
  | cons step steps hypothesis => exact hypothesis (wellFormed_run wellFormed step)

end ProgramStep
end Workbench

namespace Expr

open ExactAlgebra.Workbench

/-- Well-formedness is an invariant of the library. Whatever is read is well formed:
in Polish notation, on the lines of a program after any work on it, and as a whole
program. Every pass keeps well-formed expressions well formed, and on them it ends as
it does when it checks each sum and each product that it builds. That fractions are in
lowest terms and that variables have proper names is part of their types. -/
theorem wellFormed_isInvariant :
    (∀ text expr, Input.Polish.parse text = .ok expr → WellFormed expr) ∧
      (∀ steps,
        (ProgramStep.runAll .empty steps).WellFormed ∧
          ∀ line expr,
            (ProgramStep.runAll .empty steps).readLine line = .ok expr → WellFormed expr) ∧
        (∀ lines expr, Input.Program.parse lines = .ok expr → WellFormed expr) ∧
          ∀ (pass : Pass) (expr : Expr), WellFormed expr →
            (∀ result, pass.apply expr = .ok result → WellFormed result) ∧
              Checked.apply pass expr = (pass.apply expr).mapError .rewrite := by
  refine ⟨fun text expr => Input.Polish.wellFormed_parse, ?_,
    fun lines expr => Input.Program.wellFormed_parse, ?_⟩
  · intro steps
    have program := ProgramStep.wellFormed_runAll Input.Program.wellFormed_empty steps
    exact ⟨program, fun line expr read => program.readLine read⟩
  · intro pass expr wellFormed
    have agrees := Checked.agreesOnWellFormed_apply pass expr wellFormed
    exact ⟨agrees.meets, agrees.same⟩

/-- The sum `1 + x`, times the square of `y`. -/
def sumTimesSquare : Expr := product [power (symbol .y) 2, sum [1, symbol .x]]

theorem wellFormed_isInvariant_sumTimesSquare :
    Input.Polish.parse "* + x 1 ^ y 2" = .ok sumTimesSquare ∧
      WellFormed sumTimesSquare ∧
        ∃ result, Pass.expand.apply sumTimesSquare = .ok result ∧
          WellFormed result ∧ Checked.apply .expand sumTimesSquare = .ok result := by
  obtain ⟨polish, _, _, passes⟩ := wellFormed_isInvariant
  have read : Input.Polish.parse "* + x 1 ^ y 2" = .ok sumTimesSquare := by decide +kernel
  have wellFormed := polish _ _ read
  have expanded :
      Pass.expand.apply sumTimesSquare =
        .ok (sum
          [product [1, product [symbol .y, symbol .y]],
            product [symbol .x, product [symbol .y, symbol .y]]]) := by
    decide +kernel
  obtain ⟨kept, checked⟩ := passes .expand sumTimesSquare wellFormed
  refine ⟨read, wellFormed, _, expanded, kept _ expanded, ?_⟩
  rw [checked, expanded]
  rfl

end Expr
end ExactAlgebra
