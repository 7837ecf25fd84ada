import ExactAlgebra.Workbench.Operation.Arithmetic
import ExactAlgebra.Workbench.Operation.Expression
import ExactAlgebra.Workbench.Operation.General
import ExactAlgebra.Workbench.Operation.Passes

/-!
# The workbench

All operations that can be called on values of any kind, and calls nested in one
another. The arguments of a call are evaluated from left to right before the
call is made, and the first fault is the fault of the whole.
-/

namespace ExactAlgebra
namespace Workbench

/-- An operation of the workbench. -/
inductive Operation
  | integer (operation : IntegerOperation)
  | fraction (operation : FractionOperation)
  | build (operation : BuildOperation)
  | builder (operation : BuilderOperation)
  | part (operation : PartOperation)
  | pass (operation : PassOperation)
  | general (operation : GeneralOperation)

namespace Operation

/-- Call an operation. -/
def apply : Operation → List Value → Outcome Value
  | integer operation => operation.apply
  | fraction operation => operation.apply
  | build operation => operation.apply
  | builder operation => operation.apply
  | part operation => operation.apply
  | pass operation => operation.call
  | general operation => operation.apply

end Operation

/-- A value, or an operation called on the values of other calls. -/
inductive Call
  | value (known : Value)
  | apply (operation : Operation) (arguments : List Call)

namespace Call

mutual
/-- The value of a call. -/
def eval : Call → Outcome Value
  | value known => .ok known
  | apply operation arguments => do
      let values ← evalAll arguments
      operation.apply values
/-- The values of calls, from left to right. -/
def evalAll : List Call → Outcome (List Value)
  | [] => .ok []
  | call :: calls => do
      let first ← eval call
      let others ← evalAll calls
      return first :: others
end

end Call
end Workbench
end ExactAlgebra
