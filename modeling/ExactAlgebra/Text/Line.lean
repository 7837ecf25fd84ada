import ExactAlgebra.Text.Blank

/-!
# Lines

A text is cut into lines at every line break, and a carriage return with a line
feed is one break. A final break ends the last line and opens no further one.
-/

namespace ExactAlgebra
namespace Text

/-- The characters that end a line: line feed, vertical tab, form feed, carriage
return, the separators U+001C to U+001E, next line, and the line and paragraph
separators. -/
def isLineBreak (character : Char) : Bool :=
  let code := character.toNat
  (0x0A ≤ code ∧ code ≤ 0x0D) ∨ (0x1C ≤ code ∧ code ≤ 0x1E) ∨ code = 0x85 ∨
    code = 0x2028 ∨ code = 0x2029

/-- The lines of a text without their breaks. -/
def linesOf : List Char → List (List Char)
  | [] => []
  | '\r' :: '\n' :: rest => [] :: linesOf rest
  | character :: rest =>
      if isLineBreak character then [] :: linesOf rest
      else
        match linesOf rest with
        | [] => [[character]]
        | line :: others => (character :: line) :: others

/-- The lines of a text without their breaks. -/
def lines (text : String) : List String :=
  (linesOf text.toList).map String.ofList

/-- Write every carriage return, alone or before a line feed, as a line feed. -/
def normalizeBreaks : List Char → List Char
  | [] => []
  | '\r' :: '\n' :: rest => '\n' :: normalizeBreaks rest
  | '\r' :: rest => '\n' :: normalizeBreaks rest
  | character :: rest => character :: normalizeBreaks rest

/-- A text with every line ending written as a line feed. -/
def withLineFeeds (text : String) : String :=
  String.ofList (normalizeBreaks text.toList)

end Text
end ExactAlgebra
