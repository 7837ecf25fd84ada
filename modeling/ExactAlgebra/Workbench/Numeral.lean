import ExactAlgebra.Fraction.Power

/-!
# Fractions as they were given

A truth value counts as zero or one where an integer is needed. A fraction made
from a truth value still shows it, until arithmetic makes a new fraction.
-/

namespace ExactAlgebra
namespace Workbench

/-- A fraction, and whether its numerator or denominator was given as a truth
value. -/
structure Numeral where
  value : Fraction
  truthNum : Bool
  truthDen : Bool

namespace Numeral

/-- A fraction made from integers. -/
def plain (value : Fraction) : Numeral :=
  { value := value, truthNum := false, truthDen := false }

/-- A fraction made from a truth value. -/
def ofTruth (value : Bool) : Numeral :=
  { value := .ofInt (if value then 1 else 0), truthNum := true, truthDen := false }

/-- The text of a truth value. -/
def truthText (value : Bool) : String :=
  if value then "True" else "False"

/-- The text of the numerator. -/
def numText (numeral : Numeral) : String :=
  if numeral.truthNum then truthText (numeral.value.num ≠ 0)
  else toString numeral.value.num

/-- The numerator alone, or numerator and denominator around a slash. -/
def text (numeral : Numeral) : String :=
  if numeral.value.den = 1 then numeral.numText
  else numeral.numText ++ "/" ++ toString numeral.value.den

@[simp] theorem value_plain (value : Fraction) : (plain value).value = value := rfl

@[simp] theorem text_plain (value : Fraction) : (plain value).text = value.text := rfl

/-- The call that makes the fraction. -/
def construction (numeral : Numeral) : String :=
  if numeral.value.den = 1 then "Rational(" ++ numeral.numText ++ ")"
  else "Rational(" ++ numeral.numText ++ ", " ++ toString numeral.value.den ++ ")"

/-- The additive inverse, with a numerator of its own. -/
def opposite (numeral : Numeral) : Numeral :=
  { numeral with value := -numeral.value, truthNum := false }

/-- The magnitude. -/
def abs (numeral : Numeral) : Numeral :=
  if numeral.value.num < 0 then numeral.opposite else numeral

/-- The multiplicative inverse. Numerator and denominator change places, and a
negative sign makes both of them anew. -/
def reciprocal (numeral : Numeral) : Except ArithmeticError Numeral := do
  let inverse ← numeral.value.reciprocal
  if numeral.value.num < 0 then return plain inverse
  else return { value := inverse, truthNum := numeral.truthDen, truthDen := numeral.truthNum }

/-- A power. The exponent one leaves the base as it was given. -/
def pow (base : Numeral) (exponent : Fraction) : Except ArithmeticError (Option Numeral) :=
  if exponent = 1 then .ok (some base)
  else (base.value.pow exponent).map (Option.map plain)

end Numeral
end Workbench
end ExactAlgebra
