import ExactAlgebra.Text.Blank
import ExactAlgebra.Text.DecimalDigit

/-!
# Integers in decimal

An integer is read from an optional sign and decimal digits of any script.
Single underscores may group the digits, and blanks may surround the number.
-/

namespace ExactAlgebra
namespace Text

/-- The blanks that may surround a number: all but the separators U+001C to
U+001F. -/
def isPadding (character : Char) : Bool :=
  isBlank character && !(0x1C ≤ character.toNat && character.toNat ≤ 0x1F)

/-- Read the digits after a first digit, with the value read so far. An
underscore counts only between two digits. -/
def readDigits? (value : Nat) : List Char → Option Nat
  | [] => some value
  | '_' :: character :: rest => do
      let digit ← digitValue? character
      readDigits? (10 * value + digit) rest
  | character :: rest => do
      let digit ← digitValue? character
      readDigits? (10 * value + digit) rest

/-- Read a natural number of one or more digits. -/
def readNatural? : List Char → Option Nat
  | [] => none
  | character :: rest => do
      let digit ← digitValue? character
      readDigits? digit rest

/-- Read an integer with an optional sign. -/
def readInteger? : List Char → Option Int
  | '+' :: digits => (readNatural? digits).map Int.ofNat
  | '-' :: digits => (readNatural? digits).map fun value => -Int.ofNat value
  | digits => (readNatural? digits).map Int.ofNat

/-- Read an integer from a text, with padding around it. -/
def integer? (text : String) : Option Int :=
  readInteger? (trim isPadding text.toList)

end Text
end ExactAlgebra
