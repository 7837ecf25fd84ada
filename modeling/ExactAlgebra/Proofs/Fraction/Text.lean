import ExactAlgebra.Proofs.Input.Leaf

/-!
# Fractions as they are written

A text without marks is told apart from what follows it if that starts with a mark. So
the numerator of a written fraction ends at the slash, and because fractions are in
lowest terms, no two of them are written alike.
-/

namespace ExactAlgebra
namespace Text

/-- Nothing, or characters that start with a mark. -/
def StartsMarked (isMark : Char → Bool) (characters : List Char) : Prop :=
  ∀ first ∈ characters.head?, isMark first = true

theorem StartsMarked.nil (isMark : Char → Bool) : StartsMarked isMark [] := nofun

theorem StartsMarked.cons
    {isMark : Char → Bool}
    {mark : Char}
    (marked : isMark mark = true)
    (rest : List Char) :
    StartsMarked isMark (mark :: rest) := by
  intro first member
  cases member
  exact marked

/-- Where characters without marks end is told by the mark that follows. -/
theorem append_inj_of_startsMarked
    {isMark : Char → Bool}
    {first second firstRest secondRest : List Char}
    (firstPlain : ∀ character ∈ first, isMark character = false)
    (secondPlain : ∀ character ∈ second, isMark character = false)
    (firstMarked : StartsMarked isMark firstRest)
    (secondMarked : StartsMarked isMark secondRest)
    (equal : first ++ firstRest = second ++ secondRest) :
    first = second ∧ firstRest = secondRest := by
  -- Characters that one text has beyond the other would start with a mark.
  have noExcess {text excess rest : List Char}
      (plain : ∀ character ∈ text ++ excess, isMark character = false)
      (marked : StartsMarked isMark (excess ++ rest)) :
      excess = [] := by
    cases excess with
    | nil => rfl
    | cons mark others =>
        have unmarked := plain mark (List.mem_append_right _ List.mem_cons_self)
        rw [marked mark rfl] at unmarked
        cases unmarked
  rcases List.append_eq_append_iff.mp equal with ⟨excess, rfl, rfl⟩ | ⟨excess, rfl, rfl⟩
  · cases noExcess secondPlain firstMarked
    exact ⟨(List.append_nil _).symm, rfl⟩
  · cases noExcess firstPlain secondMarked
    exact ⟨List.append_nil _, rfl⟩

/-- No two integers are written alike. -/
theorem toString_int_injective : Function.Injective (toString : Int → String) := by
  intro first second equal
  have read (number : Int) : Input.readInteger? (toString number) = some number := by
    rw [← Input.IntegerToken.text_ofInt, Input.readInteger?_text, Input.IntegerToken.value_ofInt]
  have both := congrArg Input.readInteger? equal
  rw [read, read] at both
  exact Option.some.inj both

end Text

namespace Fraction

open Text Input

/-- What is written after the numerator of a fraction. -/
def denominatorText (value : Fraction) : List Char :=
  if value.den = 1 then [] else '/' :: (toString value.den).toList

theorem toList_text (value : Fraction) :
    value.text.toList = (toString value.num).toList ++ value.denominatorText := by
  unfold text denominatorText
  split
  · rw [List.append_nil]
  · rw [String.append_assoc, String.toList_append, String.toList_append]
    rfl

/-- A fraction is written with digits, a minus sign and a slash. -/
theorem eq_minus_or_slash_or_isDigit_of_mem_text
    {value : Fraction}
    {character : Char}
    (member : character ∈ value.text.toList) :
    character = '-' ∨ character = '/' ∨ character.isDigit = true := by
  rw [toList_text, List.mem_append] at member
  rcases member with inNumerator | inDenominator
  · rw [← IntegerToken.text_ofInt] at inNumerator
    exact (IntegerToken.eq_minus_or_isDigit_of_mem_text _ inNumerator).imp_right .inr
  · unfold denominatorText at inDenominator
    split at inDenominator
    · cases inDenominator
    · rcases List.mem_cons.mp inDenominator with slash | inDigits
      · exact .inr (.inl slash)
      · rw [← IntegerToken.text_ofNat] at inDigits
        exact (IntegerToken.eq_minus_or_isDigit_of_mem_text _ inDigits).imp_right .inr

/-- No two fractions are written alike. -/
theorem text_injective : Function.Injective text := by
  intro first second equal
  have numeratorPlain (number : Int) :
      ∀ character ∈ (toString number).toList, (character == '/') = false := by
    intro character member
    rw [← IntegerToken.text_ofInt] at member
    rcases IntegerToken.eq_minus_or_isDigit_of_mem_text _ member with rfl | digit
    · rfl
    · rw [beq_eq_false_iff_ne]
      rintro rfl
      cases digit
  have denominatorMarked (value : Fraction) :
      StartsMarked (· == '/') value.denominatorText := by
    unfold denominatorText
    split
    · exact .nil _
    · exact .cons rfl _
  have sameCharacters := congrArg String.toList equal
  rw [toList_text, toList_text] at sameCharacters
  obtain ⟨sameNumerator, sameDenominator⟩ := append_inj_of_startsMarked
    (numeratorPlain first.num) (numeratorPlain second.num) (denominatorMarked first)
    (denominatorMarked second) sameCharacters
  refine ext (toString_int_injective (String.toList_injective sameNumerator)) ?_
  unfold denominatorText at sameDenominator
  split at sameDenominator <;> split at sameDenominator
  · rename_i firstWhole secondWhole
    rw [firstWhole, secondWhole]
  · cases sameDenominator
  · cases sameDenominator
  · have sameText := String.toList_injective (List.cons.inj sameDenominator).2
    have sameInteger : ((first.den : Int)) = second.den := toString_int_injective sameText
    exact Int.ofNat_inj.mp sameInteger

end Fraction
end ExactAlgebra
