import ExactAlgebra.Expr.Build
import ExactAlgebra.Rewrite.Simplify
import ExactAlgebra.Text.Integer

/-!
# What the input formats share

Expressions are read in two formats. Both have the same leaves, variables and
decimal integers, and the same five operators. The exponent of a power is an
expression that must simplify to a constant.
-/

namespace ExactAlgebra

/-- The formats in which expressions are read. -/
inductive Format
  /-- Operators in front of their two operands, one expression on a line. -/
  | polish
  /-- Numbered definitions that refer to earlier ones, one on a line. -/
  | program
  deriving DecidableEq

namespace Format

/-- The name by which a format is chosen. -/
def name : Format → String
  | polish => "polish"
  | program => "program"

/-- The title of a format in error messages. -/
def title : Format → String
  | polish => "Polish notation"
  | program => "Straight-line program"

/-- All formats, in the order in which they are offered. -/
def all : List Format := [polish, program]

/-- The format with the given name. -/
def ofName? (name : String) : Option Format :=
  all.find? (·.name = name)

@[simp] theorem ofName?_name (format : Format) : ofName? format.name = some format := by
  cases format <;> decide +kernel

end Format

/-- Why a text is not an expression of its format. -/
inductive Refusal
  | notEnoughOperands
  | tooManyOperands
  | exponentNotRational
  | invalidNumber
  | emptyText
  | emptyLine
  | dotArguments
  | invalidToken
  | unknownOperator
  | negativeIndex
  | indexOutOfBounds
  | emptyProgram
  deriving DecidableEq

namespace Refusal

/-- The description of a refusal. -/
def description : Refusal → String
  | notEnoughOperands => "Not enough operands"
  | tooManyOperands => "Too many operands"
  | exponentNotRational => "Cannot simplify exponent to a rational number"
  | invalidNumber => "Invalid number"
  | emptyText => "Cannot parse empty string"
  | emptyLine => "Invalid empty string"
  | dotArguments => "Invalid number of arguments after a dot"
  | invalidToken => "Invalid syntax"
  | unknownOperator => "First part must be a dot or an operator"
  | negativeIndex => "Invalid negative index"
  | indexOutOfBounds => "Index out of bounds"
  | emptyProgram => "Empty program"

end Refusal

/-- Why no expression was read. -/
inductive ReadError
  /-- The text does not follow its format. -/
  | refused (format : Format) (reason : Refusal)
  /-- An exponent could not be simplified. -/
  | rewrite (cause : RewriteError)
  deriving DecidableEq

namespace ReadError

/-- The wording of a failure to read. -/
def message : ReadError → String
  | refused format reason =>
      "Parse exception (format: " ++ format.title ++ "): " ++ reason.description
  | rewrite cause => cause.message

end ReadError

/-- Why an expression is no exponent. -/
inductive ExponentError
  /-- It could not be simplified. -/
  | rewrite (cause : RewriteError)
  /-- It does not simplify to a constant. -/
  | notRational
  deriving DecidableEq

namespace ExponentError

/-- The wording of a refused exponent. -/
def message : ExponentError → String
  | rewrite cause => cause.message
  | notRational => "Exponent cannot be converted to a rational number"

end ExponentError

namespace Expr

/-- The constant that an exponent simplifies to. -/
def exponentValue (exponent : Expr) : Except ExponentError Fraction :=
  match exponent.simplify with
  | .error cause => .error (.rewrite cause)
  | .ok (number value) => .ok value
  | .ok _ => .error .notRational

/-- A base raised to an exponent that is given as an expression. -/
def raiseTo (base exponent : Expr) : Except ExponentError Expr := do
  let value ← exponent.exponentValue
  return power base value

end Expr

namespace Input

/-- The five operators. -/
inductive Operator
  | plus
  | minus
  | times
  | slash
  | caret
  deriving DecidableEq

namespace Operator

/-- The sign of an operator. -/
def sign : Operator → String
  | plus => "+"
  | minus => "-"
  | times => "*"
  | slash => "/"
  | caret => "^"

/-- All operators. -/
def all : List Operator := [plus, minus, times, slash, caret]

/-- The operator with the given sign. -/
def ofSign? (sign : String) : Option Operator :=
  all.find? (·.sign = sign)

@[simp] theorem ofSign?_sign (operator : Operator) : ofSign? operator.sign = some operator := by
  cases operator <;> decide +kernel

end Operator

/-- Read an integer written with ASCII digits and an optional minus sign. -/
def readInteger? (token : String) : Option Int :=
  match token.toList with
  | '-' :: digits => if digits.all Char.isDigit then Text.readInteger? token.toList else none
  | digits => if digits.all Char.isDigit then Text.readInteger? token.toList else none

/-- Read a variable or an integer. -/
def readLeaf? (token : String) : Option Expr :=
  match Symbol.ofText? token with
  | some name => some (.symbol name)
  | none => (readInteger? token).map fun value => .number (.ofInt value)

/-- A power in an input format. -/
def raise (format : Format) (base exponent : Expr) : Except ReadError Expr :=
  match base.raiseTo exponent with
  | .ok power => .ok power
  | .error (.rewrite cause) => .error (.rewrite cause)
  | .error .notRational => .error (.refused format .exponentNotRational)

/-- Powers associate to the right. -/
def raiseAll (format : Format) (base : Expr) : List Expr → Except ReadError Expr
  | [] => .ok base
  | next :: others => do
      let exponent ← raiseAll format next others
      raise format base exponent

/-- Apply an operator to at least two operands. -/
def combine
    (format : Format)
    (operator : Operator) : List Expr → Except ReadError Expr
  | first :: second :: others =>
      match operator with
      | .plus => .ok (Expr.sumOf (first :: second :: others))
      | .minus => .ok (Expr.difference first (second :: others))
      | .times => .ok (Expr.productOf (first :: second :: others))
      | .slash => .ok (Expr.quotient first (second :: others))
      | .caret => raiseAll format first (second :: others)
  | _ => .error (.refused format .notEnoughOperands)

end Input
end ExactAlgebra
