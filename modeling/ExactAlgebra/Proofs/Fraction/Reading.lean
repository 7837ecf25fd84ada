import ExactAlgebra.Fraction.Text
import ExactAlgebra.Proofs.Fraction.IntegerPower
import ExactAlgebra.Proofs.Input.Compilation
import ExactAlgebra.Proofs.Text.Pieces

/-!
# Written fractions are read back

An integer in decimal is read as itself, since its digits and its sign are no padding.
Two integers around a slash are read as their quotient, with blanks around them or
without, because the first of them holds no slash. A fraction is written that way in
lowest terms, so reading gives it back.
-/

namespace ExactAlgebra

namespace Text

open Input

/-- An integer in decimal is read as itself. -/
theorem integer?_toString (number : Int) : integer? (toString number) = some number := by
  rw [← IntegerToken.text_ofInt, integer?_text, IntegerToken.value_ofInt]

theorem isWord_toString_int (number : Int) : IsWord (toString number) := by
  rw [← IntegerToken.text_ofInt]
  exact IntegerToken.isWord_text _

/-- There is no slash in an integer. -/
theorem slash_not_mem_toString (number : Int) : '/' ∉ (toString number).toList := by
  rw [← IntegerToken.text_ofInt]
  intro member
  rcases IntegerToken.eq_minus_or_isDigit_of_mem_text _ member with minus | digit
  · exact absurd minus (by decide)
  · exact absurd digit (by decide)

end Text

namespace Fraction

open Text

/-- Two integers around a slash. -/
def quotientText (num den : Int) : String :=
  toString num ++ "/" ++ toString den

theorem isWord_quotientText (num den : Int) : IsWord (quotientText num den) := by
  have slash : IsWord "/" := isWord_of_all (by decide) (by decide)
  exact ((isWord_toString_int num).append slash).append (isWord_toString_int den)

/-- Without blanks around it, an integer is read as an integer. -/
theorem readParts?_toString (num : Int) : readParts? (toString num) = some (num, 1) := by
  rw [readParts?, (isWord_toString_int num).isTrimmed.strip_eq,
    cut_of_not_mem (slash_not_mem_toString num)]
  dsimp only
  rw [integer?_toString]
  rfl

/-- Blanks around two integers and a slash do not count. -/
theorem readParts?_quotientText
    {before after : String}
    (blankBefore : IsBlankText before)
    (blankAfter : IsBlankText after)
    (num den : Int) :
    readParts? (before ++ quotientText num den ++ after) = some (num, den) := by
  rw [readParts?,
    strip_append_blanks (isWord_quotientText num den).isTrimmed blankBefore blankAfter,
    quotientText, cut_append rfl (slash_not_mem_toString num)]
  dsimp only
  rw [integer?_toString, integer?_toString]
  rfl

/-- Only the two integers count for what is read. -/
theorem read_of_readParts?
    {text : String}
    {num den : Int}
    (parts : readParts? text = some (num, den)) :
    read text = (ofQuotient num den).mapError .arithmetic := by
  rw [read, parts]

/-- A fraction is the quotient of its numerator and its denominator. -/
theorem ofQuotient_num_den (fraction : Fraction) :
    ofQuotient fraction.num fraction.den = .ok fraction := by
  have nonzero : (fraction.den : Int) ≠ 0 := Int.natCast_ne_zero.mpr fraction.den_pos.ne'
  obtain ⟨quotient, success, value⟩ := @exists_ofQuotient_eq_ok fraction.num _ nonzero
  rw [Int.cast_natCast, ← toRat_eq_div] at value
  rw [success, toRat_injective value]

/-- Reading the text of a fraction gives the fraction back. -/
theorem read_text (fraction : Fraction) : read fraction.text = .ok fraction := by
  have parts : readParts? fraction.text = some (fraction.num, (fraction.den : Int)) := by
    unfold text
    split
    · rename_i whole
      rw [readParts?_toString, whole]
      rfl
    · have blank : IsBlankText "" := nofun
      have unpadded := readParts?_quotientText blank blank fraction.num fraction.den
      rwa [String.empty_append, String.append_empty] at unpadded
  rw [read_of_readParts? parts, ofQuotient_num_den]
  rfl

/-- Reading undoes writing. Every fraction is read back from its text. More generally two
integers around a slash, with any blanks around them, are read as their quotient in lowest
terms, and a denominator zero is refused. -/
theorem read_written :
    (∀ fraction : Fraction, read fraction.text = .ok fraction) ∧
      ∀ (num den : Int) (before after : String),
        IsBlankText before → IsBlankText after →
          (den ≠ 0 → ∃ quotient,
            ofQuotient num den = .ok quotient ∧ quotient.toRat = (num : ℚ) / (den : ℚ) ∧
              read (before ++ quotientText num den ++ after) = .ok quotient) ∧
          (den = 0 →
            read (before ++ quotientText num den ++ after) =
              .error (.arithmetic .zeroDenominator)) := by
  refine ⟨read_text, fun num den before after blankBefore blankAfter => ?_⟩
  rw [read_of_readParts? (readParts?_quotientText blankBefore blankAfter num den)]
  constructor
  · intro nonzero
    obtain ⟨quotient, success, value⟩ := @exists_ofQuotient_eq_ok num den nonzero
    exact ⟨quotient, success, value, congrArg (Except.mapError ReadError.arithmetic) success⟩
  · rintro rfl
    rfl

/-- Blanks of different kinds around a quotient that is not in lowest terms, and a
denominator zero. -/
theorem read_written_minusSixQuarters :
    IsBlankText " \t" ∧ IsBlankText "\u3000\n" ∧ (4 : Int) ≠ 0 ∧
      (∃ quotient, read (" \t" ++ quotientText (-6) 4 ++ "\u3000\n") = .ok quotient ∧
        quotient.num = -3 ∧ quotient.den = 2) ∧
      read (" \t" ++ quotientText (-6) 0 ++ "\u3000\n") =
        .error (.arithmetic .zeroDenominator) := by
  have blankBefore : IsBlankText " \t" := List.all_eq_true.mp rfl
  have blankAfter : IsBlankText "\u3000\n" := List.all_eq_true.mp rfl
  obtain ⟨quotient, success, -, found⟩ :=
    (read_written.2 (-6) 4 " \t" "\u3000\n" blankBefore blankAfter).1 (by decide)
  have lowest : ofQuotient (-6) 4 = .ok ⟨-3, 2, by decide, by decide⟩ := by decide +kernel
  rw [lowest] at success
  cases success
  exact ⟨blankBefore, blankAfter, by decide, ⟨_, found, rfl, rfl⟩,
    (read_written.2 (-6) 0 " \t" "\u3000\n" blankBefore blankAfter).2 rfl⟩

end Fraction
end ExactAlgebra
