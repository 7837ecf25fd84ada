import ExactAlgebra.Workbench.Operator

/-!
# Arithmetic operations of the workbench

Operations on integers and on fractions, called on values of any kind. The
operations on integers also take other numbers as far as the steps of their
algorithms do, and the first step that does not apply decides the fault.
-/

namespace ExactAlgebra
namespace Workbench

namespace Integral

/-- A number that is not negative, as it was given or with the other sign. -/
def magnitude (value : Value) : Outcome Value := do
  if ← value.isBelowZero then negated value else return value

/-- The integer of a value whose binary digits are looked at. -/
def bits (value : Value) : Outcome Int :=
  match value.integer? with
  | some number => .ok number
  | none => .error (.mismatch (.unsupported "&" value.typeName value.typeName))

/-- The greatest common divisor. With zero it is the other number, as it was
given. -/
def gcd (left right : Value) : Outcome Value := do
  let left ← magnitude left
  let right ← magnitude right
  if left.isZero then return right
  else if right.isZero then return left
  else return .integer (Integer.gcd (← bits left) (← bits right))

/-- The least common multiple. With zero it is zero, whatever the other value. -/
def lcm (left right : Value) : Outcome Value := do
  if left.isZero || right.isZero then return .integer 0
  else
    (← factors "*" left right).check
    let shared ← gcd left right
    match left.integer?, right.integer? with
    | some left, some right => return .integer (Integer.lcm left right)
    | _, _ => return shared

/-- A power of a double-precision number by repeated squaring, rounded at every
step. -/
def binaryPower (result base : Binary64) (exponent : Nat) : Binary64 :=
  if exponent = 0 then result
  else
    binaryPower (if exponent % 2 = 1 then result.mul base else result) (base.mul base)
      (exponent / 2)
termination_by exponent
decreasing_by omega

/-- The fault of squaring a value that is no number. When the exponent is odd, one
is multiplied by the value first. -/
def squaringFault (base : Value) (odd : Bool) : Fault :=
  if base.isSequence then .mismatch (.repetition base.typeName)
  else if odd then .mismatch (.unsupported "*=" "int" base.typeName)
  else .mismatch (.unsupported "*=" base.typeName base.typeName)

/-- A power with a positive exponent, by repeated squaring. -/
def positivePower (base : Value) (exponent : Nat) : Outcome Value :=
  match base with
  | .atom (.fraction base) => do
      match ← (base.value.pow (.ofInt exponent)).mapError .arithmetic with
      | some result => return .fraction result
      | none => return .nothing
  | base =>
      match base.plain? with
      | some (.whole base) => return .integer (Integer.power base exponent)
      | some (.binary base) =>
          return (Plain.binary (binaryPower (.ofInt 1) base exponent)).value
      | none => .error (squaringFault base (exponent % 2 = 1))

/-- A power. The exponent zero gives one, whatever the base. -/
def power (base exponent : Value) : Outcome Value := do
  if ← exponent.isBelowZero then throw .negativeExponent
  else if exponent.isZero then return .integer 1
  else
    match exponent.integer? with
    | some exponent => positivePower base exponent.toNat
    | none => throw (.mismatch (.unsupported "&" exponent.typeName "int"))

/-- The degree of a root is even. -/
def isEven (degree : Value) : Outcome Bool :=
  match degree.plain? with
  | some (.whole degree) => return degree % 2 = 0
  | some (.binary degree) =>
      return degree.isInteger && (degree.truncated?.any fun whole => whole % 2 = 0)
  | none => .error (.mismatch (.unsupported "%" degree.typeName "int"))

/-- The root of a magnitude below two, which can only be the magnitude itself. -/
def smallRoot (magnitude degree : Value) : Outcome (Option Value) := do
  let result ← power magnitude degree
  return if result.same magnitude then some magnitude else none

/-- The root of any other magnitude, which has to be an integer. -/
def largeRoot (magnitude degree : Value) : Outcome (Option Value) :=
  match magnitude.integer? with
  | none => .error (.missing magnitude.typeName "bit_length")
  | some radicand =>
      match degree.integer?, degree.plain? with
      | some degree, _ =>
          return (Integer.exactRoot? radicand.toNat degree.toNat).map fun root => .integer root
      | none, some _ => .error (.mismatch (.unsupported "<<" "int" degree.typeName))
      | none, none =>
          .error (.mismatch (.unsupported "//" degree.typeName degree.typeName))

/-- The root of a number, or nothing when it is not perfect. -/
def perfectRoot (radicand degree : Value) : Outcome Value := do
  if ← degree.compareWith .lessOrEqual "<=" 0 then throw (.root .degreeNotPositive)
  else
    let negative ← radicand.isBelowZero
    let evenOfNegative ← if negative then isEven degree else pure false
    if evenOfNegative then throw (.root .evenRootOfNegative)
    else
      let magnitude ← magnitude radicand
      let root? ←
        if ← magnitude.compareWith .less "<" 2 then smallRoot magnitude degree
        else largeRoot magnitude degree
      match root? with
      | some root => if negative then negated root else return root
      | none => return .nothing

/-- The integer of a text, or the integer part of a number. -/
def read (value : Value) : Outcome Value :=
  match value with
  | .atom (.text written) =>
      match Text.integer? written with
      | some number => return .integer number
      | none => .error (.integerText written)
  | value =>
      match value.plain? with
      | some (.whole number) => return .integer number
      | some (.binary number) =>
          match number.truncated? with
          | some whole => return .integer whole
          | none =>
              if number = .undefined then .error .undefinedInteger
              else .error (.overflow .infinity)
      | none => .error (.mismatch (.integerSource value.typeName))

end Integral

/-- Operations on integers. -/
inductive IntegerOperation
  | read
  | gcd
  | lcm
  | power
  | perfectRoot

namespace IntegerOperation

/-- Call an operation on integers. -/
def apply : IntegerOperation → List Value → Outcome Value
  | read, [value] => Integral.read value
  | gcd, [left, right] => Integral.gcd left right
  | lcm, [left, right] => Integral.lcm left right
  | power, [base, exponent] => Integral.power base exponent
  | perfectRoot, [radicand, degree] => Integral.perfectRoot radicand degree
  | _, _ => .error (.mismatch .arguments)

end IntegerOperation

/-- Operations on fractions. -/
inductive FractionOperation
  /-- Make a fraction from up to two integers. -/
  | make
  /-- Make a fraction from exactly two integers. -/
  | makeQuotient
  | ofInteger
  | read
  | add
  | subtract
  | multiply
  | divide
  | opposite
  | reciprocal
  | raise
  | isInteger
  | numerator
  | denominator
  | sign

namespace FractionOperation

/-- The value of a fraction, or the fault that there is no such feature. -/
def argument (value : Value) (feature : String) : Outcome Fraction :=
  return (← value.toNumeral feature).value

/-- An integer that may have been given as a truth value. -/
def given (truth : Bool) (number : Int) : Value :=
  if truth then .truth (number ≠ 0) else .integer number

/-- Call an operation on fractions. -/
def apply : FractionOperation → List Value → Outcome Value
  | make, [] => return .fraction 0
  | make, [num] => return .fraction (← Construct.quotient num (.integer 1))
  | make, [num, den] => return .fraction (← Construct.quotient num den)
  | makeQuotient, [num, den] => return .fraction (← Construct.quotient num den)
  | ofInteger, [value] => return .numeral (← Construct.ofInteger value)
  | read, [text] => do
      return .fraction (← (Fraction.read (← text.toText "strip")).mapError .fractionText)
  | add, [left, right] =>
      return .fraction ((← argument left "add") + (← argument right "_den"))
  | subtract, [left, right] =>
      return .fraction ((← argument left "sub") - (← argument right "opposite"))
  | multiply, [left, right] =>
      return .fraction ((← argument left "mul") * (← argument right "_den"))
  | divide, [left, right] => do
      let dividend ← argument left "div"
      let divisor ← argument right "reciprocal"
      return .fraction (← (dividend.div divisor).mapError .arithmetic)
  | opposite, [value] => return .numeral (← value.toNumeral "opposite").opposite
  | reciprocal, [value] => do
      return .numeral (← (← value.toNumeral "reciprocal").reciprocal.mapError .arithmetic)
  | raise, [base, exponent] => do
      let base ← base.toNumeral "pow"
      match exponent.exactNumber? with
      | none => .error (.mismatch (.exponent exponent.typeName))
      | some exponent =>
          match ← (base.pow exponent).mapError .arithmetic with
          | some result => return .numeral result
          | none => return .nothing
  | isInteger, [value] =>
      match value.plain? with
      | some (.binary number) => return .truth number.isInteger
      | _ => return .truth (← argument value "is_integer").isInteger
  | numerator, [value] => do
      let numeral ← value.toNumeral "num"
      return given numeral.truthNum numeral.value.num
  | denominator, [value] => do
      let numeral ← value.toNumeral "den"
      return given numeral.truthDen numeral.value.den
  | sign, [value] => return .integer (← argument value "sign").sign
  | _, _ => .error (.mismatch .arguments)

end FractionOperation
end Workbench
end ExactAlgebra
