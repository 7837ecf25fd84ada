import ExactAlgebra.Proofs.Text.FirstCharacter

/-!
# Words joined by spaces

Words that are joined by single spaces are found again when the text is split, and
nothing around them is stripped.
-/

namespace ExactAlgebra
namespace Text

/-! ## Pieces -/

section

variable {isBreak : Char → Bool} {piece rest : List Char} {mark : Char}

theorem segments_of_unbroken (unbroken : ∀ character ∈ piece, isBreak character = false) :
    segments isBreak piece = [piece] := by
  induction piece with
  | nil => rfl
  | cons character piece hypothesis =>
      obtain ⟨here, later⟩ := List.forall_mem_cons.mp unbroken
      rw [segments, here, hypothesis later]
      rfl

/-- The first piece ends at the first break. -/
theorem segments_append_cons
    (unbroken : ∀ character ∈ piece, isBreak character = false)
    (marked : isBreak mark = true) :
    segments isBreak (piece ++ mark :: rest) = piece :: segments isBreak rest := by
  induction piece with
  | nil => rw [List.nil_append, segments, if_pos marked]
  | cons character piece hypothesis =>
      obtain ⟨here, later⟩ := List.forall_mem_cons.mp unbroken
      rw [List.cons_append, segments, here, hypothesis later]
      rfl

end

/-! ## Words -/

theorem isBlank_eq_false_of_isAlphanum
    {character : Char}
    (alphanumeric : character.isAlphanum = true) :
    isBlank character = false := by
  delta Char.isAlphanum Char.isAlpha Char.isUpper Char.isLower at alphanumeric
  simp [isBlank, Char.isDigit, UInt32.le_iff_toNat_le] at *
  omega

/-- A text without blanks that is not empty. -/
structure IsWord (text : String) : Prop where
  nonempty : text.toList ≠ []
  unbroken : ∀ character ∈ text.toList, isBlank character = false

theorem isWord_of_all
    {text : String}
    (nonempty : text.toList ≠ [])
    (unbroken : text.toList.all (!isBlank ·) = true) :
    IsWord text where
  nonempty := nonempty
  unbroken := fun _ member => Bool.not_eq_true' _ ▸ List.all_eq_true.mp unbroken _ member

theorem IsWord.not_isEmpty {text : String} (isWord : IsWord text) :
    (!text.toList.isEmpty) = true := by
  rw [List.isEmpty_eq_false_iff.mpr isWord.nonempty, Bool.not_false]

theorem IsWord.append
    {left right : String}
    (leftWord : IsWord left)
    (rightWord : IsWord right) :
    IsWord (left ++ right) where
  nonempty := by
    rw [String.toList_append]
    exact List.append_ne_nil_of_left_ne_nil leftWord.nonempty _
  unbroken := by
    rw [String.toList_append]
    exact List.forall_mem_append.mpr ⟨leftWord.unbroken, rightWord.unbroken⟩

theorem words_of_isWord {text : String} (isWord : IsWord text) : words text = [text] := by
  rw [words, wordsOf, segments_of_unbroken isWord.unbroken, List.filter_cons,
    if_pos isWord.not_isEmpty, List.filter_nil, List.map_singleton, String.ofList_toList]

/-- The characters of two texts with a text of one character between them. -/
theorem toList_append_mark
    {separator : String}
    {mark : Char}
    (isMark : separator.toList = [mark])
    (left right : String) :
    (left ++ separator ++ right).toList = left.toList ++ mark :: right.toList := by
  rw [String.append_assoc, String.toList_append, String.toList_append, isMark,
    List.singleton_append]

/-- The first word ends at the first space. -/
theorem words_append_space {word : String} (isWord : IsWord word) (rest : String) :
    words (word ++ " " ++ rest) = word :: words rest := by
  rw [words, wordsOf, toList_append_mark rfl, segments_append_cons isWord.unbroken rfl,
    List.filter_cons, if_pos isWord.not_isEmpty, List.map_cons, String.ofList_toList]
  rfl

/-- Joined words are the words of the text. -/
theorem words_intercalate {parts : List String} (areWords : ∀ part ∈ parts, IsWord part) :
    words (" ".intercalate parts) = parts := by
  induction parts with
  | nil => decide +kernel
  | cons part parts hypothesis =>
      obtain ⟨isWord, others⟩ := List.forall_mem_cons.mp areWords
      cases parts with
      | nil => rw [String.intercalate_singleton, words_of_isWord isWord]
      | cons next parts =>
          rw [String.intercalate_cons_cons, words_append_space isWord, hypothesis others]

/-! ## Ends -/

/-- Neither end of the text is blank. -/
structure IsTrimmed (text : String) : Prop where
  first : ∃ character, text.toList.head? = some character ∧ isBlank character = false
  last : ∃ character, text.toList.getLast? = some character ∧ isBlank character = false

theorem IsWord.isTrimmed {text : String} (isWord : IsWord text) : IsTrimmed text where
  first :=
    ⟨_, List.head?_eq_some_head isWord.nonempty, isWord.unbroken _ (List.head_mem _)⟩
  last :=
    ⟨_, List.getLast?_eq_some_getLast isWord.nonempty, isWord.unbroken _ (List.getLast_mem _)⟩

theorem IsTrimmed.append
    {left right : String}
    (leftTrimmed : IsTrimmed left)
    (between : String)
    (rightTrimmed : IsTrimmed right) :
    IsTrimmed (left ++ between ++ right) where
  first := by
    obtain ⟨character, first, notBlank⟩ := leftTrimmed.first
    refine ⟨character, ?_, notBlank⟩
    rw [String.append_assoc]
    exact first?_append first _
  last := by
    obtain ⟨character, last, notBlank⟩ := rightTrimmed.last
    refine ⟨character, ?_, notBlank⟩
    rw [String.toList_append, List.getLast?_append, last]
    rfl

theorem isTrimmed_intercalate
    (separator : String)
    {part : String}
    {parts : List String}
    (areWords : ∀ word ∈ part :: parts, IsWord word) :
    IsTrimmed (separator.intercalate (part :: parts)) := by
  induction parts generalizing part with
  | nil =>
      rw [String.intercalate_singleton]
      exact (areWords part List.mem_cons_self).isTrimmed
  | cons next parts hypothesis =>
      obtain ⟨isWord, others⟩ := List.forall_mem_cons.mp areWords
      rw [String.intercalate_cons_cons]
      exact isWord.isTrimmed.append separator (hypothesis others)

theorem dropWhile_eq_self
    {inClass : Char → Bool}
    {characters : List Char}
    {character : Char}
    (first : characters.head? = some character)
    (outside : inClass character = false) :
    characters.dropWhile inClass = characters := by
  obtain ⟨rest, rfl⟩ := List.head?_eq_some_iff.mp first
  rw [List.dropWhile_cons_of_neg (by rw [outside]; decide)]

/-- Nothing is stripped off a text whose ends are not blank. -/
theorem IsTrimmed.strip_eq {text : String} (trimmed : IsTrimmed text) : strip text = text := by
  obtain ⟨first, atFirst, firstNotBlank⟩ := trimmed.first
  obtain ⟨last, atLast, lastNotBlank⟩ := trimmed.last
  have fromBack : text.toList.reverse.dropWhile isBlank = text.toList.reverse :=
    dropWhile_eq_self (List.head?_reverse.trans atLast) lastNotBlank
  rw [strip, trim, dropWhile_eq_self atFirst firstNotBlank, fromBack, List.reverse_reverse,
    String.ofList_toList]

end Text

open Text in
/-- The name of a variable is one word. -/
theorem Symbol.isWord_text (name : Symbol) : IsWord name.text where
  nonempty := name.toList_text_ne_nil
  unbroken := fun _ member =>
    isBlank_eq_false_of_isAlphanum
      (Bool.or_eq_true_iff.mpr (.inl (name.isAlpha_of_mem_text member)))

end ExactAlgebra
