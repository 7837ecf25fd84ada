import ExactAlgebra.Binary64.Basic
import ExactAlgebra.Text.Blank

/-!
# Decimal writing of double-precision numbers

A number is written with the fewest digits that read back as the same number, and
with the nearest such digits. The point stands among the digits as long as at most
sixteen of them are in front of it and at most four zeros follow it; beyond that
an exponent is written.
-/

namespace ExactAlgebra
namespace Binary64

/-- A positive decimal number: an integer times a power of ten. -/
structure Decimal where
  digits : Nat
  exponent : Int

namespace Decimal

/-- The decimal number as numerator and denominator. -/
def ratio (decimal : Decimal) : Nat × Nat :=
  if decimal.exponent < 0 then (decimal.digits, Nat.pow 10 decimal.exponent.natAbs)
  else (decimal.digits * Nat.pow 10 decimal.exponent.natAbs, 1)

/-- The position of the point, counted from the first digit. -/
def point (decimal : Decimal) : Int :=
  decimal.exponent + (toString decimal.digits).length

/-- The double-precision number nearest to a decimal number. Far outside the range
of the format only the position of the point counts. -/
def nearest (negative : Bool) (decimal : Decimal) : Binary64 :=
  if decimal.digits = 0 || decimal.point < -400 then round negative 0 1
  else if 400 < decimal.point then infinite negative
  else
    let (num, den) := decimal.ratio
    round negative num den

end Decimal

/-- The exponent of the first power of ten above a positive quotient. -/
def decimalPoint (num den : Nat) : Int :=
  let estimate : Int := (toString num).length - (toString den).length
  let (above, below) := Decimal.ratio { digits := 1, exponent := estimate }
  if num * below < den * above then estimate else estimate + 1

/-- The two decimal numbers with the given number of digits next to a positive
quotient, the nearer one first. -/
def neighbours (num den : Nat) (count : Nat) : List Decimal :=
  let exponent := decimalPoint num den - count
  let (above, below) := Decimal.ratio { digits := 1, exponent := exponent }
  let scaledNum := num * below
  let scaledDen := den * above
  let lower : Decimal := { digits := scaledNum / scaledDen, exponent := exponent }
  let upper : Decimal := { digits := scaledNum / scaledDen + 1, exponent := exponent }
  if roundedQuotient scaledNum scaledDen = lower.digits then [lower, upper]
  else [upper, lower]

/-- The shortest decimal number that reads back as the given positive quotient,
which is a double-precision number. Seventeen digits always do. -/
def shortest (num den : Nat) : Decimal :=
  let target := round false num den
  let readsBack (decimal : Decimal) : Bool := decimal.nearest false = target
  ((List.range 17).findSome? fun fewer => (neighbours num den (fewer + 1)).find? readsBack).getD
    { digits := 0, exponent := 0 }

/-- The digits without zeros at the end. -/
def significantDigits (digits : Nat) : List Char :=
  (Text.stripEnd (· = '0') (toString digits)).toList

/-- Digits with the point at the given position. -/
def positional (digits : List Char) (point : Int) : String :=
  if point ≤ 0 then
    "0." ++ "".pushn '0' point.natAbs ++ String.ofList digits
  else if digits.length ≤ point.toNat then
    String.ofList digits ++ "".pushn '0' (point.toNat - digits.length) ++ ".0"
  else
    String.ofList (digits.take point.toNat) ++ "." ++ String.ofList (digits.drop point.toNat)

/-- An exponent with its sign and at least two digits. -/
def exponentText (exponent : Int) : String :=
  let digits := toString exponent.natAbs
  (if exponent < 0 then "e-" else "e+") ++ "".pushn '0' (2 - digits.length) ++ digits

/-- One digit in front of the point, and an exponent. -/
def scientific (digits : List Char) (point : Int) : String :=
  String.ofList (digits.take 1) ++
    (if digits.length ≤ 1 then "" else "." ++ String.ofList (digits.drop 1)) ++
    exponentText (point - 1)

/-- The text of a decimal number. -/
def Decimal.text (decimal : Decimal) : String :=
  let digits := significantDigits decimal.digits
  if -4 < decimal.point ∧ decimal.point ≤ 16 then positional digits decimal.point
  else scientific digits decimal.point

/-- The shortest decimal number for the magnitude of a finite number. -/
def magnitude? (number : Binary64) : Option Decimal :=
  number.ratio?.map fun (num, den) =>
    if num = 0 then { digits := 0, exponent := 0 } else shortest num.natAbs den

/-- The text of a number. -/
def text (number : Binary64) : String :=
  match number.magnitude? with
  | some decimal =>
      (if number.isNegative then "-" else "") ++
        (if decimal.digits = 0 then "0.0" else decimal.text)
  | none =>
      match number with
      | infinite true => "-inf"
      | infinite false => "inf"
      | _ => "nan"

/-- Read digits. -/
def digits? (characters : List Char) : Option Nat :=
  if !characters.isEmpty && characters.all Char.isDigit then
    some (characters.foldl (fun total digit => 10 * total + (digit.toNat - 48)) 0)
  else none

/-- Read an exponent with an optional sign. -/
def exponent? : List Char → Option Int
  | '-' :: digits => (digits? digits).map fun exponent => -(exponent : Int)
  | '+' :: digits => (digits? digits).map fun exponent => (exponent : Int)
  | digits => (digits? digits).map fun exponent => (exponent : Int)

/-- Read digits with an optional point among them and an optional exponent after
them. -/
def Decimal.read? (characters : List Char) : Option Decimal := do
  let isMark (character : Char) : Bool := character = 'e' || character = 'E'
  let mantissa := characters.takeWhile (!isMark ·)
  let whole := mantissa.takeWhile (· ≠ '.')
  let places := (mantissa.dropWhile (· ≠ '.')).drop 1
  let exponent ←
    match characters.dropWhile (!isMark ·) with
    | [] => some 0
    | _ :: rest => exponent? rest
  let digits ← digits? (whole ++ places)
  return { digits := digits, exponent := exponent - places.length }

/-- Read a decimal number with an optional minus sign. -/
def read? (text : String) : Option Binary64 :=
  match text.toList with
  | '-' :: rest => (Decimal.read? rest).map (·.nearest true)
  | characters => (Decimal.read? characters).map (·.nearest false)

end Binary64
end ExactAlgebra
