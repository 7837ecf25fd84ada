import ExactAlgebra.Workbench.Comparison
import ExactAlgebra.Workbench.Construct

/-!
# Arithmetic operators

The operators take plain numbers, and fractions with fractions and integers in
either order. Texts, lists and tuples can be joined to others of their kind, and
repeated an integer number of times.
-/

namespace ExactAlgebra
namespace Workbench

namespace Value

/-- The value is a text, a list or a tuple. -/
def isSequence : Value → Bool
  | list _ => true
  | tuple _ => true
  | atom (.text _) => true
  | _ => false

/-- The number of elements of a text, list or tuple. -/
def length : Value → Nat
  | list elements => elements.length
  | tuple elements => elements.length
  | atom (.text value) => value.length
  | _ => 0

/-- A text, list or tuple several times in a row. -/
def repeated (count : Nat) : Value → Value
  | list elements => list (List.replicate count elements).flatten
  | tuple elements => tuple (List.replicate count elements).flatten
  | atom (.text value) => text (String.join (List.replicate count value))
  | value => value

end Value

/-- The largest number of elements of a text, list or tuple that is repeated. -/
def lengthLimit : Nat := Nat.pow 2 32

/-- How often a value is to be repeated; negative numbers mean never. -/
def repetitions (sequence : Value) (count : Value) : Outcome Nat :=
  match count.integer? with
  | none => .error (.mismatch (.repetition count.typeName))
  | some number =>
      if number < -(sizeBound : Int) ∨ (sizeBound : Int) ≤ number then
        .error (.repetition (.uncounted .copies))
      else if lengthLimit < sequence.length * number.toNat then
        .error (.repetition (.unplaced .copies))
      else .ok number.toNat

/-- What the product of two values is made of. -/
inductive Factors
  | plain (left right : Plain)
  | exact (left right : Fraction)
  | sequence (value : Value) (count : Nat)

/-- Take two values as factors, in an operation written with the given symbol. -/
def factors (symbol : String) (left right : Value) : Outcome Factors :=
  match left.plain?, right.plain? with
  | some left, some right => return .plain left right
  | _, _ =>
      match left.exactNumber?, right.exactNumber? with
      | some left, some right => return .exact left right
      | _, _ =>
          if left.isSequence then return .sequence left (← repetitions left right)
          else if right.isSequence then return .sequence right (← repetitions right left)
          else .error (.mismatch (.unsupported symbol left.typeName right.typeName))

/-- The product of two plain numbers. -/
def Plain.product : Plain → Plain → Outcome Plain :=
  Plain.combine (· * ·) Binary64.mul

namespace Factors

/-- The product of factors. -/
def product : Factors → Outcome Value
  | plain left right => return (← left.product right).value
  | exact left right => return .fraction (left * right)
  | sequence value count => return value.repeated count

/-- Whether there is a product, without making it when it is a sequence. -/
def check : Factors → Outcome Unit
  | sequence _ _ => return
  | factors => do let _ ← factors.product

end Factors

/-- The arithmetic operators. -/
inductive ArithmeticOperator
  | plus
  | minus
  | times
  | dividedBy

namespace ArithmeticOperator

/-- Apply an operator to plain numbers. -/
def onPlain : ArithmeticOperator → Plain → Plain → Outcome Plain
  | plus => Plain.combine (· + ·) Binary64.add
  | minus => Plain.combine (· - ·) Binary64.sub
  | times => Plain.product
  | dividedBy => Plain.quotient

/-- Apply an operator to fractions. -/
def onFractions (operator : ArithmeticOperator) (left right : Fraction) : Outcome Fraction :=
  match operator with
  | plus => return left + right
  | minus => return left - right
  | times => return left * right
  | dividedBy => (left.div right).mapError .arithmetic

/-- Join two texts, lists or tuples. -/
def join : Value → Value → Outcome Value
  | .atom (.text left), .atom (.text right) => return .text (left ++ right)
  | .list left, .list right => return .list (left ++ right)
  | .tuple left, .tuple right => return .tuple (left ++ right)
  | _, _ => .error .operands

/-- Apply an operator. -/
def apply (operator : ArithmeticOperator) (left right : Value) : Outcome Value :=
  match left.plain?, right.plain? with
  | some left, some right => return (← operator.onPlain left right).value
  | _, _ =>
      match left.exactNumber?, right.exactNumber? with
      | some left, some right => return .fraction (← operator.onFractions left right)
      | _, _ =>
          match operator with
          | plus => join left right
          | times => do (← factors "*" left right).product
          | _ => .error .operands

end ArithmeticOperator

/-- A number with the other sign. -/
def negated : Value → Outcome Value
  | .atom (.fraction value) => return .numeral value.opposite
  | value =>
      match value.plain? with
      | some number => return number.negate.value
      | none => .error .operands

/-- A number without its sign. -/
def unsigned : Value → Outcome Value
  | .atom (.fraction value) => return .numeral value.abs
  | value =>
      match value.plain? with
      | some number => return number.magnitude.value
      | none => .error .operands

/-- An integer without its last binary digits, rounded down. -/
def shifted (number : Int) (count : Nat) : Int :=
  if Integer.bitLength number.natAbs ≤ count then (if number < 0 then -1 else 0)
  else number / Nat.pow 2 count

/-- Two stages or pipelines one after the other, or an integer shifted by
another. -/
def sequenced (left right : Value) : Outcome Value :=
  match left.stages?, right.stages? with
  | some left, some right => return .pipeline (left ++ right)
  | _, _ =>
      match left.integer?, right.integer? with
      | some number, some count =>
          if count < 0 then .error .negativeShift
          else return .integer (shifted number count.toNat)
      | _, _ => .error .operands

end Workbench
end ExactAlgebra
