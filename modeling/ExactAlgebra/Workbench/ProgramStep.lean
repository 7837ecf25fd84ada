import ExactAlgebra.Input.Program
import ExactAlgebra.Workbench.Operator

/-!
# Working on one program

A straight-line program grows line by line, and between the lines its expressions
can be looked at. Only accepted lines and a reset change the program.
-/

namespace ExactAlgebra
namespace Workbench

/-- What can be done with a program. -/
inductive ProgramStep
  | define (line : Value)
  | last
  | reset
  | get (position : Value)
  | all
  | describe
  | nonempty

namespace ProgramStep

/-- Define the expression of a line. -/
def runDefine (program : Input.Program) (line : Value) : Input.Program × Outcome Value :=
  match line.toText "split" with
  | .error fault => (program, .error fault)
  | .ok text =>
      match program.readLine text with
      | .ok expr => (program.append expr, .ok (.expr expr))
      | .error cause => (program, .error (.read cause))

/-- The expression at a position, which is counted from the end when it is
negative. -/
def expressionAt (program : Input.Program) (position : Value) : Outcome Value :=
  match position.integer? with
  | none => .error (.mismatch (.position position.typeName))
  | some number =>
      if number < -(sizeBound : Int) ∨ (sizeBound : Int) ≤ number then .error .position
      else
        match program.get? number with
        | some expr => .ok (.expr expr)
        | none => .error .outOfRange

/-- Carry out a step: the program after it, and its result. -/
def run (program : Input.Program) : ProgramStep → Input.Program × Outcome Value
  | define line => runDefine program line
  | last =>
      match program.last? with
      | some expr => (program, .ok (.expr expr))
      | none => (program, .error .noLine)
  | reset => (.empty, .ok .nothing)
  | get position => (program, expressionAt program position)
  | all => (program, .ok (.list (program.expressions.map fun expr => .text expr.linear)))
  | describe => (program, .ok (.text program.describe))
  | nonempty => (program, .ok (.truth !program.expressions.isEmpty))

end ProgramStep
end Workbench
end ExactAlgebra
