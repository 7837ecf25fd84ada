import ExactAlgebra.Input.Polish
import ExactAlgebra.Input.Program
import ExactAlgebra.Text.Line
import ExactAlgebra.Workbench.Construct

/-!
# Expression operations of the workbench

Building, taking apart and reading expressions, called on values of any kind.
The builder takes numbers and names of variables wherever it needs expressions.
-/

namespace ExactAlgebra
namespace Workbench

/-- Operations that build expressions from expressions. -/
inductive BuildOperation
  | number
  | symbol
  | sum
  | product
  | power
  | difference
  | ratio
  | powerOfExpr
  /-- A constant that takes no arguments. -/
  | literal (value : Int)

namespace BuildOperation

/-- Call an operation that builds expressions. -/
def apply : BuildOperation → List Value → Outcome Value
  | number, [value] => return .node (← Construct.number value)
  | symbol, [name] => return .node (.symbol (← Construct.symbol name))
  | sum, operands => return .node (← Construct.sum operands)
  | product, operands => return .node (← Construct.product operands)
  | power, [base, exponent] => return .node (← Construct.power base exponent)
  | difference, [operands] => return .node (← Construct.difference (← operands.elements))
  | ratio, [operands] => return .node (← Construct.ratio (← operands.elements))
  | powerOfExpr, [base, exponent] => return .node (← Construct.powerOfExpr base exponent)
  | literal value, [] => return .expr (.number (.ofInt value))
  | _, _ => .error (.mismatch .arguments)

end BuildOperation

/-- Operations of the builder. -/
inductive BuilderOperation
  | parse
  | constant
  | symbol
  | symbols
  | sum
  | product
  | difference
  | ratio
  | power
  | program
  | programLines
  | title

namespace BuilderOperation

/-- The texts at the start of a list of values, and the values after them. -/
def leadingTexts : List Value → List String × List Value
  | .atom (.text text) :: others =>
      let (texts, rest) := leadingTexts others
      (text :: texts, rest)
  | values => ([], values)

/-- The last expression of a program. The lines are read one by one, so that a
value that is no text counts only after all lines before it are accepted. -/
def parseProgram (lines : List Value) : Outcome Value :=
  match leadingTexts lines with
  | (texts, []) => return .expr (← (Input.Program.parse texts).mapError .read)
  | (texts, value :: _) => do
      let _ ← (Input.Program.ofLines texts).mapError .read
      .error (.missing value.typeName "strip")

/-- Call an operation of the builder. -/
def apply : BuilderOperation → List Value → Outcome Value
  | parse, [text] => do
      return .expr (← (Input.Polish.parse (← text.toText "split")).mapError .read)
  | constant, [value] => return .expr (← Construct.constant value (.integer 1))
  | constant, [value, den] => return .expr (← Construct.constant value den)
  | symbol, [name] => return .node (.symbol (← Construct.symbol name))
  | symbols, names => do
      let symbols ← names.mapM Construct.symbol
      return .tuple (symbols.map fun name => .node (.symbol name))
  | sum, operands => do
      return .node (← Construct.sum (← Construct.coercedAll operands))
  | product, operands => do
      return .node (← Construct.product (← Construct.coercedAll operands))
  | difference, operands => do
      return .node (← Construct.difference (← Construct.coercedAll operands))
  | ratio, operands => do
      return .node (← Construct.ratio (← Construct.coercedAll operands))
  | power, [base, exponent] => do
      return .node (← Construct.power (.node (← Construct.coerced base)) exponent)
  | program, [.atom (.text text)] => parseProgram ((Text.lines text).map .text)
  | program, [lines] => do parseProgram (← lines.elements)
  | programLines, [lines] => do parseProgram (← lines.elements)
  | title, [] => return .text "E (expression builder)"
  | _, _ => .error (.mismatch .arguments)

end BuilderOperation

/-- Operations that take expressions apart. -/
inductive PartOperation
  | containsSymbols
  | children
  | value
  | name
  | operands
  | base
  | exponent

namespace PartOperation

/-- Call an operation on one value. -/
def apply : PartOperation → List Value → Outcome Value
  | containsSymbols, [subject] =>
      return .truth (← subject.toNode "contains_variables").expr.containsSymbols
  | children, [subject] =>
      return .tuple ((← subject.toNode "children").children.map .node)
  | value, [.atom (.node (.number number))] => return .numeral number
  | value, [subject] => .error (.missing subject.typeName "value")
  | name, [.atom (.node (.symbol symbol))] => return .text symbol.text
  | name, [.atom (.stage stage)] => return .text stage.name
  | name, [.step _ label _ _] => return label
  | name, [subject] => .error (.missing subject.typeName "name")
  | operands, [.atom (.node (.sum terms))] => return .tuple (terms.map .node)
  | operands, [.atom (.node (.product factors))] => return .tuple (factors.map .node)
  | operands, [subject] => .error (.missing subject.typeName "operands")
  | base, [.atom (.node (.power inner _))] => return .node inner
  | base, [subject] => .error (.missing subject.typeName "base")
  | exponent, [.atom (.node (.power _ outer))] => return .numeral outer
  | exponent, [subject] => .error (.missing subject.typeName "exponent")
  | _, _ => .error (.mismatch .arguments)

end PartOperation
end Workbench
end ExactAlgebra
