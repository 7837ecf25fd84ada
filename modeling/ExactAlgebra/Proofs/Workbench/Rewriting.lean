import ExactAlgebra.Pipeline
import ExactAlgebra.Proofs.Workbench.Building
import ExactAlgebra.Workbench.Operation.Passes

/-!
# Passes on nodes and on expressions

A pass on a node does what it does on the expression of the node: where that one succeeds,
the node of the result has the result as its expression, and where that one fails, the
fault is that failure. Only expansion has a way to end that the pass on expressions leaves
open, where it meets a power that cannot be unrolled, and it ends there with just that
refusal.

Simplification is compared to every depth, so the recursion of both runs is the same one.
-/

namespace ExactAlgebra
namespace Workbench

/-- The failure of a pass that a fault stands for, if it stands for one. -/
def Fault.rewriteError? : Fault → Option RewriteError
  | arithmetic cause => some (.arithmetic cause)
  | rewrite cause => some cause
  | indeterminate base => some (.indeterminate base.expr)
  | _ => none

/-- A call mirrors a plain computation. Both succeed, and what is seen of the result of the
call is the plain result; or both fail for the same cause; or the call breaks off where
`broken` says so. -/
inductive Mirrors (view : α → β) :
    (broken : Option RepetitionError) → Outcome α → Except RewriteError β → Prop
  | ok (result : α) : Mirrors view none (.ok result) (.ok (view result))
  | error {fault : Fault} {cause : RewriteError}
      (same : fault.rewriteError? = some cause) :
      Mirrors view none (.error fault) (.error cause)
  | broken (cause : RepetitionError) (plain : Except RewriteError β) :
      Mirrors view (some cause) (.error (.repetition cause)) plain

namespace Mirrors

variable
  {view : α → β}
  {broken : Option RepetitionError}
  {call : Outcome α}
  {plain : Except RewriteError β}

/-- Calls that are made one after the other mirror computations made one after the other.
They break off in the first one, or in the second one if the first one succeeds. -/
theorem bind
    {further : α' → β'}
    {later : β → Option RepetitionError}
    {nextCall : α → Outcome α'}
    {nextPlain : β → Except RewriteError β'}
    (first : Mirrors view broken call plain)
    (next : ∀ result,
      Mirrors further (later (view result)) (nextCall result) (nextPlain (view result))) :
    Mirrors further (broken.or (plain.toOption.bind later))
      (call >>= nextCall) (plain >>= nextPlain) := by
  cases first with
  | ok result => exact next result
  | error same => exact .error same
  | broken cause plain => exact .broken cause (plain >>= nextPlain)

/-- Two calls that do not break off do not break off one after the other. -/
theorem bind_none
    {further : α' → β'}
    {nextCall : α → Outcome α'}
    {nextPlain : β → Except RewriteError β'}
    (first : Mirrors view none call plain)
    (next : ∀ result, Mirrors further none (nextCall result) (nextPlain (view result))) :
    Mirrors further none (call >>= nextCall) (plain >>= nextPlain) := by
  cases first with
  | ok result => exact next result
  | error same => exact .error same

/-- What is made of a result without failing may be seen in another way. -/
theorem map
    {further : α' → β'}
    {make : α → α'}
    {makePlain : β → β'}
    (mirrors : Mirrors view broken call plain)
    (same : ∀ result, further (make result) = makePlain (view result)) :
    Mirrors further broken (call >>= fun result => .ok (make result))
      (plain >>= fun result => .ok (makePlain result)) := by
  cases mirrors with
  | ok result =>
      change Mirrors further none (.ok (make result)) (.ok (makePlain (view result)))
      exact same result ▸ .ok (make result)
  | error same => exact .error same
  | broken cause plain => exact .broken cause _

theorem mapM
    {inputs : List γ}
    {image : γ → δ}
    {function : γ → Outcome α}
    {plainFunction : δ → Except RewriteError β}
    (each : ∀ input ∈ inputs, Mirrors view none (function input) (plainFunction (image input))) :
    Mirrors (List.map view) none (inputs.mapM function)
      ((inputs.map image).mapM plainFunction) := by
  induction inputs with
  | nil => exact .ok []
  | cons input inputs hypothesis =>
      obtain ⟨here, there⟩ := List.forall_mem_cons.mp each
      rw [List.mapM_cons, List.map_cons, List.mapM_cons]
      exact here.bind_none fun first => (hypothesis there).bind_none fun others =>
        .ok (first :: others)

end Mirrors

namespace Node

open ExactAlgebra.Workbench.Mirrors

/-! ## Simplification -/

theorem mirrors_checkZeroExponent (base : Node) :
    Mirrors id none base.checkZeroExponent base.expr.checkZeroExponent := by
  simp only [checkZeroExponent, Expr.checkZeroExponent, isLiteral_zero_iff]
  split_ifs
  · exact .error rfl
  · exact .error rfl
  · exact .ok ()

theorem mirrors_mapError_arithmetic (attempt : Except ArithmeticError α) :
    Mirrors id none (attempt.mapError .arithmetic) (attempt.mapError .arithmetic) := by
  cases attempt with
  | error cause => exact .error rfl
  | ok result => exact .ok result

/-- The inverse of a numeral has the inverse of its value as value. -/
theorem mirrors_reciprocal (value : Numeral) :
    Mirrors Numeral.value none (value.reciprocal.mapError .arithmetic)
      (value.value.reciprocal.mapError .arithmetic) := by
  rw [Numeral.reciprocal]
  cases value.value.reciprocal with
  | error cause => exact .error rfl
  | ok inverse =>
      change Mirrors _ _ (Except.mapError _ (if _ then _ else _)) _
      split_ifs
      · exact .ok (Numeral.plain inverse)
      · exact .ok (Numeral.mk inverse value.truthDen value.truthNum)

theorem mirrors_numberPower (value exponent : Numeral) :
    Mirrors expr none (numberPower value exponent)
      (Simplify.numberPower value.value exponent.value) := by
  refine (mirrors_mapError_arithmetic (value.value.pow exponent.value)).bind_none fun found => ?_
  cases found with
  | some result => exact .ok (constant result)
  | none =>
      dsimp only [id_eq]
      split_ifs
      · exact (mirrors_reciprocal value).bind_none fun inverse =>
          .ok (power (number inverse) exponent.opposite)
      · exact .ok (power (number value) exponent)

section Parts

variable
  {simplifyPart : Node → Outcome Node}
  {plainPart : Expr → Except RewriteError Expr}
  (parts : ∀ part, Mirrors expr none (simplifyPart part) (plainPart part.expr))

include parts

theorem mirrors_collectedFactor (base : Node) (exponent : Fraction) :
    Mirrors (List.map expr) none (collectedFactor simplifyPart base exponent)
      (Simplify.collectedFactor plainPart (base.expr, exponent)) := by
  simp only [collectedFactor, Simplify.collectedFactor, isLiteral_zero_iff]
  split_ifs
  · exact .error rfl
  · exact .ok []
  · exact .ok [base]
  · exact (parts (power base (.plain exponent))).bind_none fun factor => .ok [factor]

theorem mirrors_collectProduct (operands : List Node) :
    Mirrors expr none (collectProduct simplifyPart operands)
      (Simplify.collectProduct plainPart (operands.map expr)) := by
  unfold collectProduct Simplify.collectProduct
  dsimp only
  rw [exprs_eq_map]
  split_ifs
  · exact .ok (constant 0)
  · have collected (bases : List Node) :
        Mirrors (List.map (List.map expr)) none
          ((Simplify.factorTally (operands.map expr)).mapM fun entry =>
            collectedFactor simplifyPart (representative (keyed bases) entry.1) entry.2)
          ((Simplify.factorTally (operands.map expr)).mapM
            (Simplify.collectedFactor plainPart)) := by
      have each := Mirrors.mapM fun entry (_ : entry ∈ Simplify.factorTally (operands.map expr)) =>
        mirrors_collectedFactor parts (representative (keyed bases) entry.1) entry.2
      simpa only [expr_representative, List.map_id'] using each
    refine (collected _).map fun factors => ?_
    rw [expr_assembleProduct, exprs_eq_map, map_filter_not_isNumber, List.map_flatten]

theorem mirrors_raise (base : Node) (exponent : Numeral) :
    Mirrors expr none (raise simplifyPart base exponent)
      (Simplify.raise plainPart base.expr exponent.value) := by
  unfold raise Simplify.raise
  split_ifs
  · exact (mirrors_checkZeroExponent base).bind_none fun _ => .ok (constant 1)
  · exact .ok base
  · cases base with
    | number value => exact mirrors_numberPower value exponent
    | power inner innerExponent =>
        exact parts (power inner (.plain (innerExponent.value * exponent.value)))
    | symbol name => exact .ok (power (symbol name) exponent)
    | sum operands => exact .ok (power (sum operands) exponent)
    | product operands => exact .ok (power (product operands) exponent)

/-- One step of simplification mirrors the step on expressions if its parts do. -/
theorem mirrors_simplifyStep (node : Node) :
    Mirrors expr none (simplifyStep simplifyPart node) (Simplify.step plainPart node.expr) := by
  have all (operands : List Node) :
      Mirrors (List.map expr) none (operands.mapM simplifyPart)
        ((operands.map expr).mapM plainPart) :=
    Mirrors.mapM fun operand _ => parts operand
  cases node with
  | number value => exact .ok (number value)
  | symbol name => exact .ok (symbol name)
  | sum operands =>
      rw [simplifyStep, expr_sum, Simplify.step]
      refine (all operands).map fun simplified => ?_
      rw [expr_collectSum, expr_flatMap_summands]
  | product operands =>
      rw [simplifyStep, expr_product, Simplify.step]
      refine (all operands).bind_none fun simplified => ?_
      rw [← expr_flatMap_factors]
      exact mirrors_collectProduct parts _
  | power base exponent =>
      exact (parts base).bind_none fun simplified => mirrors_raise parts simplified exponent

end Parts

/-- To every depth both runs go the same way. -/
theorem mirrors_simplifyToDepth (depth : Nat) (node : Node) :
    Mirrors expr none (simplifyToDepth depth node) (Simplify.toDepth depth node.expr) := by
  induction depth generalizing node with
  | zero => exact .ok node
  | succ depth hypothesis => exact mirrors_simplifyStep hypothesis node

theorem mirrors_simplify (node : Node) : Mirrors expr none node.simplify node.expr.simplify :=
  mirrors_simplifyToDepth _ node

/-! ## Expansion -/

/-- Nodes are expanded one after the other, up to one that fails or breaks off. -/
theorem mirrors_expandAll
    {operands : List Node}
    (each : ∀ operand ∈ operands,
      Mirrors expr operand.expr.repetitionError? operand.expand operand.expr.expand) :
    Mirrors (List.map expr) (Expr.repetitionErrorAll? (operands.map expr)) (expandAll operands)
      (Expr.expandAll (operands.map expr)) := by
  induction operands with
  | nil => exact .ok []
  | cons operand operands hypothesis =>
      obtain ⟨here, there⟩ := List.forall_mem_cons.mp each
      rw [List.map_cons, Expr.repetitionErrorAll?_cons, expandAll, Expr.expandAll]
      exact here.bind fun first => (hypothesis there).map fun _ => rfl

/-- Expanding a node mirrors expanding its expression, up to a power that cannot be
unrolled. -/
theorem mirrors_expand (node : Node) :
    Mirrors expr node.expr.repetitionError? node.expand node.expr.expand := by
  induction node with
  | number value =>
      rw [expand, expr_number, Expr.expand, Expr.repetitionError?]
      exact .ok (number value)
  | symbol name =>
      rw [expand, expr_symbol, Expr.expand, Expr.repetitionError?]
      exact .ok (symbol name)
  | sum operands hypothesis =>
      rw [expand, expr_sum, Expr.expand, Expr.repetitionError?]
      refine (mirrors_expandAll hypothesis).map fun expanded => ?_
      rw [expr_sumOf, expr_flatMap_summands]
  | product operands hypothesis =>
      rw [expand, expr_product, Expr.expand, Expr.repetitionError?]
      exact (mirrors_expandAll hypothesis).map expr_distributeAll
  | power base exponent hypothesis =>
      rw [expand, expr_power, Expr.expand]
      by_cases isZero : exponent.value = 0
      · rw [if_pos isZero, if_pos isZero, Expr.repetitionError?, if_pos isZero]
        exact (mirrors_checkZeroExponent base).bind_none fun _ => .ok (constant 1)
      · rw [if_neg isZero, if_neg isZero, Expr.repetitionError?_power base.expr isZero]
        refine hypothesis.bind fun expanded => ?_
        -- The exponent one asks for a single copy, which the check lets through as well.
        rw [checkRepetition]
        cases (Repetition.ofBase expanded.expr).error? exponent.value.num.natAbs with
        | some cause => exact .broken cause _
        | none =>
            change Mirrors expr none (.ok (if _ then _ else _)) (.ok (if _ then _ else _))
            rw [← expr_unroll, ← apply_ite expr]
            exact .ok _

/-! ## Passes -/

/-- Every pass on a node mirrors the pass on its expression. -/
theorem mirrors_rewrite (pass : Pass) (node : Node) :
    Mirrors expr (pass.repetitionError? node.expr) (node.rewrite pass) (pass.apply node.expr) := by
  cases pass with
  | simplify => exact mirrors_simplify node
  | expand => exact mirrors_expand node
  | differentiate target =>
      rw [Pass.apply, ← expr_derivative]
      exact .ok (node.derivative target)

end Node

/-! ## Pipelines -/

/-- The expression of a subject, if it is a node. -/
def Subject.expr? : Subject → Option Expr
  | node value => some value.expr
  | _ => none

/-- The steps of a pipeline on a node mirror its steps on the expression of the node, and
break off in the same one. -/
theorem Stage.mirrors_steps (index : Nat) (pipeline : Pipeline) (node : Node) :
    Mirrors (List.map (Step.map Subject.expr?))
      ((pipeline.breakFrom? index node.expr).map PipelineBreak.cause)
      (steps index (pipeline.map .pass) (.node node))
      ((pipeline.runFrom index node.expr).outcome >>= fun _ =>
        .ok ((pipeline.runFrom index node.expr).steps.map (Step.map some))) := by
  induction pipeline generalizing index node with
  | nil => exact .ok []
  | cons pass others hypothesis =>
      have here := node.mirrors_rewrite pass
      rw [Pipeline.breakFrom?, Pipeline.runFrom, List.map_cons, steps, applyTo]
      generalize pass.repetitionError? node.expr = broken at here ⊢
      generalize node.rewrite pass = call at here ⊢
      generalize pass.apply node.expr = plain at here ⊢
      cases here with
      | broken cause plain => exact .broken cause _
      | error same => exact .error same
      | ok result =>
          let recorded : Step Subject :=
            { index := index, name := pass.name, before := .node node, after := .node result }
          have seen (rest : List (Step Subject)) :
              (recorded :: rest).map (Step.map Subject.expr?) =
                recorded.map Subject.expr? :: rest.map (Step.map Subject.expr?) := List.map_cons
          have later := (hypothesis (index + 1) result).map seen
          rw [bind_assoc] at later
          dsimp only
          rw [Option.map_map]
          exact later

/-- The trace of a pipeline on a node mirrors the trace of the run on the expression of the
node, which ends with what the run ends with. -/
theorem mirrors_traced (pipeline : Pipeline) (node : Node) :
    Mirrors (Trace.map Subject.expr?)
      ((pipeline.break? node.expr).map PipelineBreak.cause)
      (traced (pipeline.map .pass) (.node node))
      ((pipeline.run node.expr).outcome >>= fun final =>
        .ok (Trace.map some
          { initial := node.expr, steps := (pipeline.run node.expr).steps, final := final })) := by
  have started :
      traced (pipeline.map .pass) (.node node) =
        Stage.steps 0 (pipeline.map .pass) (.node node) >>= fun completed =>
          .ok (.ofSteps (.node node) completed) := by
    unfold traced
    split <;> rfl
  have later := (Stage.mirrors_steps 0 pipeline node).map (Trace.map_ofSteps _ (.node node))
  have ended :
      ((pipeline.run node.expr).outcome >>= fun final =>
        .ok (Trace.map some
          { initial := node.expr, steps := (pipeline.run node.expr).steps, final := final })) =
      ((pipeline.run node.expr).outcome >>= fun _ =>
        .ok (.ofSteps (some node.expr) ((pipeline.run node.expr).steps.map (Step.map some)))) := by
    simp only [← Trace.map_ofSteps]
    cases ran : (pipeline.run node.expr).outcome with
    | error cause => rfl
    | ok final => rw [← Pipeline.final_ofSteps_runFrom ran]; rfl
  rw [bind_assoc] at later
  rw [started, ended]
  exact later

end Workbench
end ExactAlgebra
