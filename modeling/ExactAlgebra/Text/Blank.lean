/-!
# Blanks and words

White space separates words and surrounds lines. Everything here works on lists
of characters, and the functions on strings are wrappers around them.
-/

namespace ExactAlgebra
namespace Text

/-- White space: tabulators and line breaks, the four separators U+001C to
U+001F, and every space character, but not the zero-width ones. -/
def isBlank (character : Char) : Bool :=
  let code := character.toNat
  (0x09 ≤ code ∧ code ≤ 0x0D) ∨ (0x1C ≤ code ∧ code ≤ 0x20) ∨ code = 0x85 ∨ code = 0xA0 ∨
    code = 0x1680 ∨ (0x2000 ≤ code ∧ code ≤ 0x200A) ∨ code = 0x2028 ∨ code = 0x2029 ∨
    code = 0x202F ∨ code = 0x205F ∨ code = 0x3000

/-- Remove the leading and trailing characters of a class. -/
def trim (inClass : Char → Bool) (characters : List Char) : List Char :=
  (((characters.dropWhile inClass).reverse).dropWhile inClass).reverse

/-- Remove the blanks around a text. -/
def strip (text : String) : String :=
  String.ofList (trim isBlank text.toList)

/-- Remove the blanks in front of a text. -/
def stripFront (text : String) : String :=
  String.ofList (text.toList.dropWhile isBlank)

/-- Remove the characters of a class at the end of a text. -/
def stripEnd (inClass : Char → Bool) (text : String) : String :=
  String.ofList ((text.toList.reverse.dropWhile inClass).reverse)

/-- The pieces between the characters of a class. There is always one piece more
than there are such characters, and pieces may be empty. -/
def segments (isBreak : Char → Bool) : List Char → List (List Char)
  | [] => [[]]
  | character :: rest =>
      if isBreak character then [] :: segments isBreak rest
      else
        match segments isBreak rest with
        | [] => [[character]]
        | segment :: others => (character :: segment) :: others

/-- The maximal runs of characters that are not blank. -/
def wordsOf (characters : List Char) : List (List Char) :=
  (segments isBlank characters).filter fun segment => !segment.isEmpty

/-- The words of a text, separated by blanks. -/
def words (text : String) : List String :=
  (wordsOf text.toList).map String.ofList

/-- The pieces of a text between the occurrences of a character. -/
def splitAtChar (separator : Char) (text : String) : List String :=
  (segments (· = separator) text.toList).map String.ofList

/-- The text before the first occurrence of a character, and the text after it
if the character occurs. -/
def cut (separator : Char) (text : String) : String × Option String :=
  let before := text.toList.takeWhile (· ≠ separator)
  match text.toList.dropWhile (· ≠ separator) with
  | [] => (String.ofList before, none)
  | _ :: after => (String.ofList before, some (String.ofList after))

/-- The text starts with the given characters. -/
def startsWith (start text : String) : Bool :=
  start.toList.isPrefixOf text.toList

end Text
end ExactAlgebra
