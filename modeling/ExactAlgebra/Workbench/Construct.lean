import ExactAlgebra.Workbench.Node.Simplify
import ExactAlgebra.Workbench.Plain

/-!
# Checked constructions

Building expressions, fractions and pipelines from values of any kind. Every
argument is checked before it is used, and the first one that does not fit
decides the fault.
-/

namespace ExactAlgebra
namespace Workbench
namespace Value

/-- The value that stands for no value. -/
def nothing : Value := atom .nothing

/-- A truth value. -/
def truth (value : Bool) : Value := atom (.truth value)

/-- An integer. -/
def integer (value : Int) : Value := atom (.integer value)

/-- A text. -/
def text (value : String) : Value := atom (.text value)

/-- A fraction as it was given. -/
def numeral (value : Numeral) : Value := atom (.fraction value)

/-- A fraction. -/
def fraction (value : Fraction) : Value := numeral (.plain value)

/-- An expression as it was given. -/
def node (value : Node) : Value := atom (.node value)

/-- An expression. -/
def expr (value : Expr) : Value := node (.ofExpr value)

/-- A stage. -/
def stage (value : Stage) : Value := atom (.stage value)

/-- A pipeline. -/
def pipeline (stages : List Stage) : Value := atom (.pipeline stages)

/-- The expression of a value, or the fault that it has no such feature. -/
def toNode (value : Value) (feature : String) : Outcome Node :=
  match value with
  | atom (.node node) => .ok node
  | value => .error (.missing value.typeName feature)

/-- The fraction of a value, or the fault that it has no such feature. -/
def toNumeral (value : Value) (feature : String) : Outcome Numeral :=
  match value with
  | atom (.fraction numeral) => .ok numeral
  | value => .error (.missing value.typeName feature)

/-- The text of a value, or the fault that it has no such feature. -/
def toText (value : Value) (feature : String) : Outcome String :=
  match value with
  | atom (.text text) => .ok text
  | value => .error (.missing value.typeName feature)

/-- The stages of a stage or pipeline. -/
def stages? : Value → Option (List Stage)
  | atom (.stage stage) => some [stage]
  | atom (.pipeline stages) => some stages
  | _ => none

/-- What a value is a collection of: the elements of a list or tuple, the
characters of a text, the stages of a pipeline, and the steps of a trace. -/
def elements? : Value → Option (List Value)
  | list elements => some elements
  | tuple elements => some elements
  | atom (.text value) =>
      some (value.toList.map fun character => text (String.singleton character))
  | atom (.pipeline stages) => some (stages.map stage)
  | trace value => some (value.steps.map ofStep)
  | _ => none

/-- The elements of a value, or the fault that it has none. -/
def elements (value : Value) : Outcome (List Value) :=
  match value.elements? with
  | some elements => .ok elements
  | none => .error (.mismatch (.notIterable value.typeName))

/-- The number of elements of a value, or the fault that it has none. -/
def size (value : Value) : Outcome Nat :=
  match value.elements? with
  | some elements => .ok elements.length
  | none => .error (.mismatch (.unsized value.typeName))

end Value

namespace Construct

/-- A quotient of two integers. -/
def quotient (num den : Value) : Outcome Fraction :=
  match num.integer?, den.integer? with
  | some num, some den => (Fraction.ofQuotient num den).mapError .arithmetic
  | _, _ => .error (.mismatch .quotientParts)

/-- A fraction made from an integer or a truth value. -/
def ofInteger : Value → Outcome Numeral
  | .atom (.integer value) => .ok (.plain (.ofInt value))
  | .atom (.truth value) => .ok (.ofTruth value)
  | _ => .error (.mismatch .integerPart)

/-- A constant. -/
def number : Value → Outcome Node
  | .atom (.integer value) => .ok (.number (.plain (.ofInt value)))
  | .atom (.fraction value) => .ok (.number value)
  | _ => .error (.malformed .numberValue)

/-- The name of a variable. -/
def symbol (value : Value) : Outcome Symbol :=
  let refused : Outcome Symbol := .error (.malformed (.symbolName value.construction))
  match value with
  | .atom (.text text) =>
      match Symbol.ofText? text with
      | some name => .ok name
      | none => refused
  | _ => refused

/-- An operand of a sum or product. -/
def operand (operation : String) : Value → Outcome Node
  | .atom (.node value) => .ok value
  | .atom .nothing => .error (.malformed (.operandMissing operation))
  | value => .error (.malformed (.operandKind operation value.typeName))

/-- The operands of a sum or product, at least two, in canonical order. -/
def operands (operation : String) (values : List Value) : Outcome (List Node) :=
  if values.length < 2 then
    .error (.malformed (.tooFewOperands operation values.length))
  else return Node.arrange (← values.mapM (operand operation))

/-- A sum. -/
def sum (values : List Value) : Outcome Node :=
  return .sum (← operands "Sum" values)

/-- A product. -/
def product (values : List Value) : Outcome Node :=
  return .product (← operands "Product" values)

/-- The value of an exponent that is an expression. -/
def exponentValue (exponent : Node) : Outcome Numeral := do
  match ← exponent.simplify with
  | .number value => return value
  | _ => throw (.exponent .notRational)

/-- A power with an exponent that is a fraction, an integer or an expression. -/
def power (base exponent : Value) : Outcome Node := do
  let base ←
    match base with
    | .atom (.node value) => .ok value
    | _ => .error (.malformed .powerBase)
  match exponent with
  | .atom (.node value) => return .power base (← exponentValue value)
  | .atom (.integer value) => return .power base (.plain (.ofInt value))
  | .atom (.fraction value) => return .power base value
  | _ => .error (.malformed .powerExponent)

/-- A power with an exponent that is an expression. The exponent is looked at
before the base. -/
def powerOfExpr (base exponent : Value) : Outcome Node :=
  match exponent with
  | .atom (.node exponent) => do power base (.numeral (← exponentValue exponent))
  | _ => .error (.malformed .powerExponentExpr)

/-- A difference of at least two operands. -/
def difference (values : List Value) : Outcome Node :=
  match values with
  | first :: second :: others => do
      let negated ← (second :: others).mapM fun other => product [.node Node.minusOne, other]
      sum (first :: negated.map .node)
  | values => .error (.malformed (.tooFewOperands "Subtraction" values.length))

/-- A quotient of at least two expressions. -/
def ratio (values : List Value) : Outcome Node :=
  match values with
  | first :: second :: others => do
      let inverted ← (second :: others).mapM fun other => power other (.integer (-1))
      product (first :: inverted.map .node)
  | values => .error (.malformed (.tooFewOperands "Division" values.length))

/-- An expression from an expression, a number, or the name of a variable. -/
def coerced (value : Value) : Outcome Node :=
  match value with
  | .atom (.node value) => .ok value
  | .atom (.integer _) => number value
  | .atom (.fraction _) => number value
  | .atom (.text _) => return .symbol (← symbol value)
  | value => .error (.malformed (.noExpression value.typeName))

/-- Several coerced expressions. -/
def coercedAll (values : List Value) : Outcome (List Value) :=
  values.mapM fun value => return .node (← coerced value)

/-- A constant from a number or its text, divided by a denominator. -/
def constant (value den : Value) : Outcome Expr :=
  let divided (fraction : Fraction) : Outcome Expr :=
    match den.exactNumber? with
    | some den => return .number (← (fraction.div den).mapError .arithmetic)
    | none => .error (.mismatch (.unsupported "/" "Rational" den.typeName))
  match value with
  | .atom (.text text) => do divided (← (Fraction.read text).mapError .fractionText)
  | .atom (.fraction numeral) => divided numeral.value
  | value => return .number (← quotient value den)

/-- The stage of a value. -/
def stage : Value → Outcome Stage
  | .atom (.stage value) => .ok value
  | value => .error (.mismatch (.stage value.typeName))

/-- What a drawing puts in front of the lines of parts. -/
def indent : Value → Indent
  | .atom (.text value) => .text value
  | value => .unsuitable value.typeName

/-- A printer of drawings. -/
def treePrinter (lead below : Value) : Stage :=
  .treePrinter lead.shown (indent below)

end Construct
end Workbench
end ExactAlgebra
