import ExactAlgebra.Pass.Basic
import ExactAlgebra.Trace

/-!
# Pipelines

A pipeline applies passes one after the other and stops at the first failure. It
keeps the steps that were completed, also when a later one fails. A power that cannot be
unrolled is no failure of a pass: there the whole pipeline breaks off.
-/

namespace ExactAlgebra

/-- What applying passes led to: the completed steps and the outcome. -/
structure PipelineRun where
  steps : List (Step Expr)
  outcome : Except RewriteError Expr

/-- Where applying passes breaks off at a power that cannot be unrolled: the steps
completed before it, and why. -/
structure PipelineBreak where
  steps : List (Step Expr)
  cause : RepetitionError

/-- Passes that are applied in order. -/
abbrev Pipeline := List Pass

namespace Pipeline

/-- Apply passes, numbering the steps from `index` on. -/
def runFrom (index : Nat) : Pipeline → Expr → PipelineRun
  | [], expr => { steps := [], outcome := .ok expr }
  | pass :: others, expr =>
      match pass.apply expr with
      | .error cause => { steps := [], outcome := .error cause }
      | .ok result =>
          let rest := runFrom (index + 1) others result
          let step : Step Expr :=
            { index := index, name := pass.name, before := expr, after := result }
          { steps := step :: rest.steps, outcome := rest.outcome }

/-- A pipeline that succeeds ends with what its trace ends with. -/
theorem final_ofSteps_runFrom
    {index : Nat}
    {pipeline : Pipeline}
    {expr final : Expr}
    (ran : (pipeline.runFrom index expr).outcome = .ok final) :
    (Trace.ofSteps expr (pipeline.runFrom index expr).steps).final = final := by
  induction pipeline generalizing index expr with
  | nil => exact Except.ok.inj ran
  | cons pass others hypothesis =>
      rw [runFrom] at ran ⊢
      cases applied : pass.apply expr with
      | error cause =>
          rw [applied] at ran
          cases ran
      | ok result =>
          rw [applied] at ran
          rw [← hypothesis ran]
          dsimp only [Trace.ofSteps]
          rw [List.getLast?_cons, Option.map_some, Option.getD_some]
          cases (runFrom (index + 1) others result).steps.getLast? <;> rfl

/-- Apply passes in order. -/
def run (pipeline : Pipeline) (expr : Expr) : PipelineRun :=
  runFrom 0 pipeline expr

/-- Where applying passes breaks off, numbering the steps from `index` on. -/
def breakFrom? (index : Nat) : Pipeline → Expr → Option PipelineBreak
  | [], _ => none
  | pass :: others, expr =>
      match pass.repetitionError? expr with
      | some cause => some { steps := [], cause := cause }
      | none =>
          match pass.apply expr with
          | .error _ => none
          | .ok result =>
              let step : Step Expr :=
                { index := index, name := pass.name, before := expr, after := result }
              (breakFrom? (index + 1) others result).map fun rest =>
                { rest with steps := step :: rest.steps }

/-- Where applying passes in order breaks off, if it does. -/
def break? (pipeline : Pipeline) (expr : Expr) : Option PipelineBreak :=
  breakFrom? 0 pipeline expr

/-- The names of the passes, in order. -/
def names (pipeline : Pipeline) : List String :=
  pipeline.map Pass.name

end Pipeline
end ExactAlgebra
