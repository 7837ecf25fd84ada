import ExactAlgebra.Fraction.Basic
import ExactAlgebra.Text.Integer
import ExactAlgebra.Text.Quoted

/-!
# Reading fractions

A fraction is read from an integer, or from two integers around a slash. It need
not be in lowest terms, and its denominator may be negative.
-/

namespace ExactAlgebra
namespace Fraction

/-- Why a text is no fraction. -/
inductive ReadError
  /-- The text is neither an integer nor two integers around a slash. -/
  | invalid (text : String)
  /-- The denominator is zero. -/
  | arithmetic (cause : ArithmeticError)
  deriving DecidableEq

namespace ReadError

/-- The wording of a refused text. -/
def message : ReadError → String
  | invalid text => "Invalid rational number: " ++ Text.quoted text
  | arithmetic cause => cause.message

end ReadError

/-- The two integers of a written fraction; the denominator is one when there is
no slash. -/
def readParts? (text : String) : Option (Int × Int) :=
  match Text.cut '/' (Text.strip text) with
  | (whole, none) => do
      let num ← Text.integer? whole
      return (num, 1)
  | (above, some below) => do
      let num ← Text.integer? above
      let den ← Text.integer? below
      return (num, den)

/-- Read a fraction. -/
def read (text : String) : Except ReadError Fraction :=
  match readParts? text with
  | none => .error (.invalid text)
  | some (num, den) => (ofQuotient num den).mapError .arithmetic

end Fraction
end ExactAlgebra
