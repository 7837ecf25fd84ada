import ExactAlgebra.Sorting.Runs
import ExactAlgebra.Workbench.Feature
import ExactAlgebra.Workbench.Operator

/-!
# Operations on values of every kind

Comparing, ordering, counting, copying, changing and printing values, and the
arithmetic operators.
-/

namespace ExactAlgebra
namespace Workbench

/-- Operations on values of every kind. -/
inductive GeneralOperation
  | list
  | construction
  | display
  | order
  | compare (comparison : Comparison)
  | arithmetic (operator : ArithmeticOperator)
  | negate
  | magnitude
  | truth
  | sorted
  | distinct
  | setFeature
  | removeFeature
  /-- Copy a value, which may be read back from a record. -/
  | copy (recorded : Bool)
  | sequence

namespace GeneralOperation

/-- Minus one, zero or one. -/
def orderNumber : Ordering → Int
  | .lt => -1
  | .eq => 0
  | .gt => 1

/-- The three-way comparison of two fractions or two expressions. -/
def compareExact : Value → Value → Outcome Value
  | .atom (.fraction left), right => do
      let right ← right.toNumeral "_den"
      return .integer (orderNumber (left.value.compare right.value))
  | .atom (.node left), .atom (.node right) =>
      return .integer (orderNumber (left.expr.compare right.expr))
  | .atom (.node _), right => .error (.mismatch (.comparison right.typeName))
  | left, _ => .error (.missing left.typeName "compare")

/-- Values that differ from all values before them. -/
def distinctValues (values : List Value) : List Value :=
  values.foldl (fun kept value => if kept.any (·.alike value) then kept else kept ++ [value]) []

mutual
/-- The value is a list or a tuple that holds one, which cannot be counted. -/
def holdsList : Value → Bool
  | .list _ => true
  | .tuple elements => anyHoldsList elements
  | _ => false
/-- One of the values is a list or holds one. -/
def anyHoldsList : List Value → Bool
  | [] => false
  | element :: elements => holdsList element || anyHoldsList elements
end

/-- Whether a value counts as true. -/
def isTrue : Value → Bool
  | .atom .nothing => false
  | .atom (.truth value) => value
  | .atom (.integer value) => value ≠ 0
  | .atom (.binary value) => !value.isZero
  | .atom (.text value) => value ≠ ""
  | .atom (.fraction value) => value.value ≠ 0
  | .atom (.pipeline stages) => !stages.isEmpty
  | .list elements => !elements.isEmpty
  | .tuple elements => !elements.isEmpty
  | .trace trace => !trace.steps.isEmpty
  | _ => true

/-- The name of a feature, which has to be a text. -/
def featureName : Value → Outcome String
  | .atom (.text name) => .ok name
  | name => .error (.mismatch (.featureName name.typeName))

/-- A truth value, or the fault that the operands do not fit. -/
def decided : Option Bool → Outcome Value
  | some holds => return .truth holds
  | none => .error .operands

/-- Sort values, or tell that two of them have no common order. -/
def sortValues (values : List Value) : Outcome Value :=
  match Sorting.sort? (Comparison.decide? .less) values with
  | some inOrder => return .list inOrder
  | none => .error .operands

/-- The fault of a call with a wrong number of arguments. Operators do not explain
themselves. -/
def countFault : GeneralOperation → Fault
  | compare _ => .operands
  | arithmetic _ => .operands
  | negate => .operands
  | magnitude => .operands
  | truth => .operands
  | sequence => .operands
  | _ => .mismatch .arguments

/-- Call an operation on values of every kind. -/
def apply : GeneralOperation → List Value → Outcome Value
  | list, values => return .list values
  | construction, [value] => return .text value.construction
  | display, [value] => return .text value.display
  | order, [left, right] => compareExact left right
  | compare comparison, [left, right] => decided (comparison.decide? left right)
  | arithmetic operator, [left, right] => (operator.apply left right).mapError Fault.unexplained
  | negate, [value] => negated value
  | magnitude, [value] => unsigned value
  | truth, [value] => return .truth (isTrue value)
  | sorted, values => sortValues values
  | distinct, values =>
      if values.any holdsList then .error (.mismatch (.uncounted "list"))
      else return .integer (distinctValues values).length
  | setFeature, [subject, name, given] => do
      subject.setFeature (← featureName name) given.typeName
      return .nothing
  | removeFeature, [subject, name] => do
      subject.removeFeature (← featureName name)
      return .nothing
  | copy recorded, [value] => return value.copy recorded
  | sequence, [left, right] => sequenced left right
  | operation, _ => .error operation.countFault

end GeneralOperation
end Workbench
end ExactAlgebra
