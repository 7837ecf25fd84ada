import ExactAlgebra.Integer.Root

/-!
# Double-precision numbers

A finite number is a significand of at most 53 binary digits times a power of two.
Every operation is exact on integers first, and its result is rounded once to the
nearest number, a half going to the even significand. So nothing here rests on the
arithmetic of a machine.
-/

namespace ExactAlgebra

/-- A number in the double-precision format. -/
inductive Binary64
  /-- The significand times two to the exponent, with a sign that zero has too. -/
  | finite (negative : Bool) (significand : Nat) (exponent : Int)
  | infinite (negative : Bool)
  /-- The result of an operation that has none. -/
  | undefined
  deriving DecidableEq

namespace Binary64

/-- The significand has at most this many binary digits. -/
def precision : Nat := 53

/-- The exponent of the least positive number. -/
def leastExponent : Int := -1074

/-- The exponent of the greatest number. -/
def greatestExponent : Int := 971

/-- A quotient rounded to the nearest integer, a half to the even one. -/
def roundedQuotient (num den : Nat) : Nat :=
  if 2 * (num % den) < den then num / den
  else if den < 2 * (num % den) then num / den + 1
  else if num / den % 2 = 0 then num / den
  else num / den + 1

/-- A quotient in units of a power of two, as numerator and denominator. -/
def inUnits (num den : Nat) (exponent : Int) : Nat × Nat :=
  if exponent < 0 then (num * Nat.pow 2 exponent.natAbs, den)
  else (num, den * Nat.pow 2 exponent.natAbs)

/-- The quotient is below the greatest significand when it is counted in units of
the given power of two. -/
def fits (num den : Nat) (exponent : Int) : Bool :=
  let (above, below) := inUnits num den exponent
  above < below * Nat.pow 2 precision

/-- The exponent of the unit to which a positive quotient is rounded. -/
def unitExponent (num den : Nat) : Int :=
  let estimate : Int := Integer.bitLength num - Integer.bitLength den - precision
  max leastExponent (if fits num den estimate then estimate else estimate + 1)

/-- The number with a significand that may have one binary digit too many, as
rounding up leaves it. -/
def ofRounded (negative : Bool) (significand : Nat) (exponent : Int) : Binary64 :=
  let (significand, exponent) :=
    if significand = Nat.pow 2 precision then (significand / 2, exponent + 1)
    else (significand, exponent)
  if greatestExponent < exponent then infinite negative
  else finite negative significand exponent

/-- The number nearest to a quotient of natural numbers with a sign. -/
def round (negative : Bool) (num den : Nat) : Binary64 :=
  if num = 0 then finite negative 0 leastExponent
  else
    let exponent := unitExponent num den
    let (above, below) := inUnits num den exponent
    ofRounded negative (roundedQuotient above below) exponent

/-- The number nearest to an integer. -/
def ofInt (number : Int) : Binary64 :=
  round (number < 0) number.natAbs 1

/-- The number is zero, with either sign. -/
def isZero : Binary64 → Bool
  | finite _ significand _ => significand = 0
  | _ => false

/-- The number has a minus sign. -/
def isNegative : Binary64 → Bool
  | finite negative _ _ => negative
  | infinite negative => negative
  | undefined => false

/-- The exact value of a finite number, as numerator and denominator. -/
def ratio? : Binary64 → Option (Int × Nat)
  | finite negative significand exponent =>
      let signed : Int := if negative then -(significand : Int) else significand
      if exponent < 0 then some (signed, Nat.pow 2 exponent.natAbs)
      else some (signed * Nat.pow 2 exponent.natAbs, 1)
  | _ => none

/-- The same number with the other sign. -/
def neg : Binary64 → Binary64
  | finite negative significand exponent => finite (!negative) significand exponent
  | infinite negative => infinite (!negative)
  | undefined => undefined

/-- The same number without its sign. -/
def abs (number : Binary64) : Binary64 :=
  if number.isNegative then number.neg else number

/-- The sum. A sum of zero is positive unless both summands are negative. -/
def add (left right : Binary64) : Binary64 :=
  match left.ratio?, right.ratio? with
  | some (leftNum, leftDen), some (rightNum, rightDen) =>
      let num := leftNum * rightDen + rightNum * leftDen
      if num = 0 then
        finite (left.isNegative && right.isNegative) 0 leastExponent
      else round (num < 0) num.natAbs (leftDen * rightDen)
  | _, _ =>
      match left, right with
      | infinite leftNegative, infinite rightNegative =>
          if leftNegative = rightNegative then left else undefined
      | undefined, _ => undefined
      | _, undefined => undefined
      | infinite _, _ => left
      | _, _ => right

/-- The difference. -/
def sub (left right : Binary64) : Binary64 :=
  left.add right.neg

/-- The product. -/
def mul (left right : Binary64) : Binary64 :=
  let negative := left.isNegative != right.isNegative
  match left.ratio?, right.ratio? with
  | some (leftNum, leftDen), some (rightNum, rightDen) =>
      round negative (leftNum.natAbs * rightNum.natAbs) (leftDen * rightDen)
  | _, _ =>
      if left = undefined || right = undefined || left.isZero || right.isZero then undefined
      else infinite negative

/-- The quotient by a number that is not zero. -/
def div (left right : Binary64) : Binary64 :=
  let negative := left.isNegative != right.isNegative
  match left.ratio?, right.ratio? with
  | some (leftNum, leftDen), some (rightNum, rightDen) =>
      round negative (leftNum.natAbs * rightDen) (leftDen * rightNum.natAbs)
  | _, _ =>
      match left, right with
      | infinite _, finite _ _ _ => infinite negative
      | finite _ _ _, infinite _ => finite negative 0 leastExponent
      | _, _ => undefined

/-- The integer part of a finite number. -/
def truncated? (number : Binary64) : Option Int :=
  number.ratio?.map fun (num, den) => num.tdiv den

/-- The number is an integer. -/
def isInteger (number : Binary64) : Bool :=
  match number.ratio? with
  | some (num, den) => num % den = 0
  | none => false

end Binary64
end ExactAlgebra
