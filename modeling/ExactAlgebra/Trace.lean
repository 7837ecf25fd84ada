/-!
# Traces

A trace records what a sequence of passes did: the subject at the start, one
step for each pass with the subject before and after it, and the subject at the
end. The subjects are expressions in a session, and may be other values elsewhere,
so everything here takes the function that writes a subject.
-/

namespace ExactAlgebra

/-- One pass applied within a sequence. -/
structure Step (α : Type) where
  index : Int
  name : String
  before : α
  after : α

namespace Step

/-- The pass made a difference. -/
def changed [BEq α] (step : Step α) : Bool :=
  step.before != step.after

/-- The pass with the subject before and after it. -/
def describe (text : α → String) (step : Step α) : String :=
  step.name ++ ": " ++ text step.before ++ " → " ++ text step.after

/-- The step with its subjects changed by a function. -/
def map (change : α → β) (step : Step α) : Step β where
  index := step.index
  name := step.name
  before := change step.before
  after := change step.after

end Step

/-- The record of a sequence of passes. -/
structure Trace (α : Type) where
  initial : α
  steps : List (Step α)
  final : α

namespace Trace

/-- The trace with its subjects changed by a function. -/
def map (change : α → β) (trace : Trace α) : Trace β where
  initial := change trace.initial
  steps := trace.steps.map (Step.map change)
  final := change trace.final

/-- The record of completed steps. It ends with the subject after the last one. -/
def ofSteps (initial : α) (steps : List (Step α)) : Trace α where
  initial := initial
  steps := steps
  final := (steps.getLast?.map Step.after).getD initial

theorem map_ofSteps (change : α → β) (initial : α) (steps : List (Step α)) :
    (ofSteps initial steps).map change =
      ofSteps (change initial) (steps.map (Step.map change)) := by
  rw [ofSteps, ofSteps, map, List.getLast?_map]
  cases steps.getLast? <;> rfl

/-- The names of the applied passes, in order. -/
def names (trace : Trace α) : List String :=
  trace.steps.map Step.name

/-- The subject at the start and the end on one line, around the pass names. -/
def compact (text : α → String) (trace : Trace α) : String :=
  text trace.initial ++ " --[" ++ ", ".intercalate trace.names ++ "]--> " ++ text trace.final

/-- The pass names alone. -/
def namesText (trace : Trace α) : String :=
  if trace.steps.isEmpty then "(no passes applied)"
  else " -> ".intercalate trace.names

/-- The subject at the start and after every pass, with the pass names between
them. -/
def chain (text : α → String) (trace : Trace α) : String :=
  "\n".intercalate (text trace.initial ::
    trace.steps.flatMap fun step => ["  --(" ++ step.name ++ ")-->", text step.after])

/-- One numbered line for each step, between the subjects at start and end. -/
def verbose [BEq α] (text : α → String) (trace : Trace α) : String :=
  let numbered := trace.steps.zipIdx 1
  let body := numbered.map fun (step, position) =>
    "  " ++ toString position ++ ". " ++ step.describe text ++
      (if step.changed then "" else " (unchanged)")
  "\n".intercalate
    (["Initial: " ++ text trace.initial] ++ body ++ ["Final: " ++ text trace.final])

/-- How many passes ran and how many of them made a difference. -/
def summary [BEq α] (trace : Trace α) : String :=
  if trace.steps.isEmpty then "No passes applied"
  else
    toString trace.steps.length ++ " passes applied, " ++
      toString (trace.steps.countP Step.changed) ++ " changed the expression"

end Trace
end ExactAlgebra
