import ExactAlgebra.Text.Printable

/-!
# Quoted text

Texts are shown in messages between quotes, with control characters and other
characters that cannot be printed written as escapes. Single quotes are used
unless the text has single quotes and no double ones.
-/

namespace ExactAlgebra
namespace Text

/-- The lower-case hexadecimal digits of a number, filled up with zeros to a
width. -/
def hexadecimal (width number : Nat) : List Char :=
  let digits := Nat.toDigits 16 number
  List.replicate (width - digits.length) '0' ++ digits

/-- One character between the given quotes. -/
def escape (quote character : Char) : List Char :=
  if character = quote ∨ character = '\\' then ['\\', character]
  else if character = '\n' then ['\\', 'n']
  else if character = '\r' then ['\\', 'r']
  else if character = '\t' then ['\\', 't']
  else if isPrintable character then [character]
  else if character.toNat < 0x100 then '\\' :: 'x' :: hexadecimal 2 character.toNat
  else if character.toNat < 0x10000 then '\\' :: 'u' :: hexadecimal 4 character.toNat
  else '\\' :: 'U' :: hexadecimal 8 character.toNat

/-- The quotes around a text: double ones only when that avoids an escape. -/
def quoteFor (characters : List Char) : Char :=
  if '\'' ∈ characters ∧ '"' ∉ characters then '"' else '\''

/-- A text between quotes, with escapes. -/
def quoted (text : String) : String :=
  let quote := quoteFor text.toList
  String.ofList (quote :: text.toList.flatMap (escape quote) ++ [quote])

end Text
end ExactAlgebra
