import ExactAlgebra.Fraction.Text
import ExactAlgebra.Input.Basic
import ExactAlgebra.Pass.Spec
import ExactAlgebra.Rewrite.Repetition
import ExactAlgebra.Workbench.Node

/-!
# Faults of the workbench

Every call of the workbench that has no result ends in a fault, which keeps its
cause. Most causes are those of the library; the rest are values of the wrong
kind, which only a call on values of any kind can meet.
-/

namespace ExactAlgebra
namespace Workbench

/-- Why no expression can be built from the given parts. -/
inductive Malformed
  | numberValue
  /-- The written form of what was given as the name of a variable. -/
  | symbolName (shown : String)
  | tooFewOperands (operation : String) (count : Nat)
  | operandMissing (operation : String)
  | operandKind (operation typeName : String)
  | powerBase
  | powerExponent
  | powerExponentExpr
  | noExpression (typeName : String)

namespace Malformed

/-- The wording of a refused construction. -/
def message : Malformed → String
  | numberValue => "Number value must be a Rational or int"
  | symbolName shown => "Invalid variable name: " ++ shown
  | tooFewOperands operation count =>
      operation ++ " requires at least two operands, got " ++ toString count
  | operandMissing operation => operation ++ " operand cannot be None"
  | operandKind operation typeName =>
      operation ++ " operand must be a Node, got " ++ typeName
  | powerBase => "Power base must be a Node"
  | powerExponent => "Power exponent must be a Rational, int or Node"
  | powerExponentExpr => "Power exponent must be a Node"
  | noExpression typeName => "Cannot build an expression from " ++ typeName

end Malformed

/-- Which kind of value a call cannot take. -/
inductive Mismatch
  | quotientParts
  | integerPart
  | integerSource (typeName : String)
  | exponent (typeName : String)
  | comparison (typeName : String)
  | stage (typeName : String)
  /-- The value is not in the given relation to an integer, nor out of it. -/
  | unordered (relation typeName : String)
  | unsupported (operator left right : String)
  | repetition (typeName : String)
  /-- A collection cannot be continued by a text. -/
  | continuation (typeName : String)
  | uncounted (typeName : String)
  | notIterable (typeName : String)
  | unsized (typeName : String)
  | notCallable (typeName : String)
  /-- A single stage has no trace. -/
  | untraced
  | featureName (typeName : String)
  /-- The kind of a value is no value of another kind. -/
  | kindFeature (typeName : String)
  /-- Every value has a kind. -/
  | kindRemoval
  /-- The list of held features is no value of another kind. -/
  | featureTable (typeName : String)
  | position (typeName : String)
  | arguments

namespace Mismatch

/-- The wording of a refused kind of value. -/
def message : Mismatch → String
  | quotientParts => "Rational numerator and denominator must be integers"
  | integerPart => "Rational.from_int requires an integer"
  | integerSource typeName =>
      "int() argument must be a string, a bytes-like object or a real number, not '" ++
        typeName ++ "'"
  | exponent typeName => "Expected a Rational or int, got " ++ typeName
  | comparison typeName => "Cannot compare Node with " ++ typeName
  | stage typeName => "Pipeline stages must be Transforms, got " ++ typeName
  | unordered relation typeName =>
      "'" ++ relation ++ "' not supported between instances of '" ++ typeName ++ "' and 'int'"
  | unsupported operator left right =>
      "unsupported operand type(s) for " ++ operator ++ ": '" ++ left ++ "' and '" ++ right ++
        "'"
  | repetition typeName =>
      "can't multiply sequence by non-int of type '" ++ typeName ++ "'"
  | continuation typeName =>
      "can only concatenate " ++ typeName ++ " (not \"str\") to " ++ typeName
  | uncounted typeName => "unhashable type: '" ++ typeName ++ "'"
  | notIterable typeName => "'" ++ typeName ++ "' object is not iterable"
  | unsized typeName => "object of type '" ++ typeName ++ "' has no len()"
  | notCallable typeName => "'" ++ typeName ++ "' object is not callable"
  | untraced => "Transform.__call__() got an unexpected keyword argument 'trace'"
  | featureName typeName => "attribute name must be string, not '" ++ typeName ++ "'"
  | kindFeature typeName =>
      "__class__ must be set to a class, not '" ++ typeName ++ "' object"
  | kindRemoval => "can't delete __class__ attribute"
  | featureTable typeName =>
      "__dict__ must be set to a dictionary, not a '" ++ typeName ++ "'"
  | position typeName => "list indices must be integers or slices, not " ++ typeName
  | arguments => "wrong number of arguments"

end Mismatch

/-- Why a result is out of reach. -/
inductive Overflow
  /-- An integer is beyond the double-precision numbers. -/
  | integer
  /-- A quotient of integers is beyond the double-precision numbers. -/
  | quotient
  /-- Infinity is no integer. -/
  | infinity

namespace Overflow

/-- The wording of a result that is out of reach. -/
def message : Overflow → String
  | integer => "int too large to convert to float"
  | quotient => "integer division result too large for a float"
  | infinity => "cannot convert float infinity to integer"

end Overflow

/-- Why a call of the workbench has no result. -/
inductive Fault
  | arithmetic (cause : ArithmeticError)
  | rewrite (cause : RewriteError)
  /-- A node that could be zero is raised to the exponent zero. -/
  | indeterminate (base : Node)
  | exponent (cause : ExponentError)
  | read (cause : ReadError)
  | fractionText (cause : Fraction.ReadError)
  | passName (cause : PassNameError)
  | root (cause : Integer.RootError)
  | negativeExponent
  | negativeShift
  | integerText (text : String)
  /-- An undefined number has no integer part. -/
  | undefinedInteger
  /-- A plain number is divided by zero; one of the two is in double precision. -/
  | divisionByZero (binary : Bool)
  | overflow (cause : Overflow)
  | repetition (cause : RepetitionError)
  | malformed (cause : Malformed)
  | mismatch (cause : Mismatch)
  /-- An operator does not apply to the kinds of its operands. -/
  | operands
  | missing (typeName feature : String)
  | immutable (typeName : String)
  /-- The feature can only be read. -/
  | readOnly (typeName feature : String)
  /-- The feature can only be read in all values of a kind and its subkinds. -/
  | unwritable (owner feature : String)
  /-- The feature is computed and cannot be set. -/
  | unsettable (typeName feature : String)
  /-- The feature is computed and cannot be removed. -/
  | unremovable (typeName feature : String)
  | unhandled (stage kind : String)
  /-- A program without lines has no last expression. -/
  | noLine
  | outOfRange
  /-- A position is beyond any size. -/
  | position

namespace Fault

/-- The longest text that a refused integer is shown with. -/
def shownLength : Nat := 200

/-- The wording of a fault. Operators do not explain themselves. -/
def message? : Fault → Option String
  | arithmetic cause => some cause.message
  | rewrite cause => some cause.message
  | indeterminate base => some (RewriteError.indeterminateMessage base.linear)
  | exponent cause => some cause.message
  | read cause => some cause.message
  | fractionText cause => some cause.message
  | passName cause => some cause.message
  | root cause => some cause.message
  | negativeExponent => some "Exponent cannot be negative"
  | negativeShift => some "negative shift count"
  | integerText text =>
      some ("invalid literal for int() with base 10: " ++
        String.ofList ((Text.quoted text).toList.take shownLength))
  | undefinedInteger => some "cannot convert float NaN to integer"
  | divisionByZero binary => some (if binary then "float division by zero" else "division by zero")
  | overflow cause => some cause.message
  | repetition cause => some cause.message
  | malformed cause => some cause.message
  | mismatch cause => some cause.message
  | operands => none
  | missing typeName feature =>
      some ("'" ++ typeName ++ "' object has no attribute '" ++ feature ++ "'")
  | immutable typeName => some (typeName ++ " is immutable")
  | readOnly typeName feature =>
      some ("'" ++ typeName ++ "' object attribute '" ++ feature ++ "' is read-only")
  | unwritable owner feature =>
      some ("attribute '" ++ feature ++ "' of '" ++ owner ++ "' objects is not writable")
  | unsettable typeName feature =>
      some ("property '" ++ feature ++ "' of '" ++ typeName ++ "' object has no setter")
  | unremovable typeName feature =>
      some ("property '" ++ feature ++ "' of '" ++ typeName ++ "' object has no deleter")
  | unhandled stage kind => some (stage ++ " does not handle " ++ kind)
  | noLine => some "Cannot get last expression, no line has been parsed"
  | outOfRange => some "list index out of range"
  | position => some "cannot fit 'int' into an index-sized integer"

/-- The fault without an explanation, if it is one of the kinds of operands. -/
def unexplained : Fault → Fault
  | mismatch _ => operands
  | fault => fault

end Fault

/-- The result of a call. -/
abbrev Outcome := Except Fault

/-- Refuse to unroll a power of an expanded base if its copies, or the choices among its
terms, cannot be written out. -/
def checkRepetition (count : Nat) (base : Expr) : Outcome Unit :=
  match (Repetition.ofBase base).error? count with
  | none => .ok ()
  | some cause => .error (.repetition cause)

end Workbench
end ExactAlgebra
