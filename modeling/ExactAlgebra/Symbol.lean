/-!
# Symbols

The names of variables: one or more ASCII letters. Capital and small letters are
different, and symbols are ordered by the code points of their letters.
-/

namespace ExactAlgebra

/-- The text is one or more ASCII letters. -/
def isSymbolText (text : String) : Bool :=
  !text.toList.isEmpty && text.toList.all Char.isAlpha

/-- The name of a variable. -/
structure Symbol where
  text : String
  valid : isSymbolText text = true
  deriving DecidableEq

namespace Symbol

/-- The symbol with the given text, if the text can name a variable. -/
def ofText? (text : String) : Option Symbol :=
  if valid : isSymbolText text then some ⟨text, valid⟩ else none

@[simp] theorem ofText?_text (symbol : Symbol) : ofText? symbol.text = some symbol := by
  simp [ofText?, symbol.valid]

theorem text_of_ofText?_eq_some
    {text : String}
    {symbol : Symbol}
    (found : ofText? text = some symbol) :
    symbol.text = text := by
  unfold ofText? at found
  split at found
  · cases found
    rfl
  · cases found

theorem text_injective : Function.Injective text := by
  rintro ⟨text, _⟩ ⟨other, _⟩ equal
  cases equal
  rfl

theorem toList_text_ne_nil (symbol : Symbol) : symbol.text.toList ≠ [] := by
  intro empty
  have valid := symbol.valid
  rw [isSymbolText, empty] at valid
  cases valid

theorem isAlpha_of_mem_text
    (symbol : Symbol)
    {letter : Char}
    (member : letter ∈ symbol.text.toList) :
    letter.isAlpha = true :=
  List.all_eq_true.mp (Bool.and_eq_true_iff.mp symbol.valid).2 letter member

instance : Ord Symbol := ⟨fun left right => compare left.text right.text⟩

end Symbol
end ExactAlgebra
