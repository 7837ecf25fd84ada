import ExactAlgebra.Proofs.Text.Words

/-!
# Texts taken apart

A text that was put together around a mark is taken apart again at the mark, as long as
the parts do not hold it themselves, and blanks that were put around a text are stripped.
-/

namespace ExactAlgebra
namespace Text

/-! ## Blanks around a text -/

/-- Nothing but blanks. -/
def IsBlankText (text : String) : Prop :=
  ∀ character ∈ text.toList, isBlank character = true

theorem strip_append_blanks
    {text before after : String}
    (trimmed : IsTrimmed text)
    (blankBefore : IsBlankText before)
    (blankAfter : IsBlankText after) :
    strip (before ++ text ++ after) = text := by
  obtain ⟨last, atLast, lastNotBlank⟩ := trimmed.last
  obtain ⟨first, atFirst, firstNotBlank⟩ := trimmed.first
  have fromFront :
      (before.toList ++ (text.toList ++ after.toList)).dropWhile isBlank =
        text.toList ++ after.toList := by
    rw [List.dropWhile_append_of_pos blankBefore]
    exact dropWhile_eq_self (by rw [List.head?_append, atFirst, Option.some_or]) firstNotBlank
  have fromBack :
      (after.toList.reverse ++ text.toList.reverse).dropWhile isBlank = text.toList.reverse := by
    rw [List.dropWhile_append_of_pos fun _ member => blankAfter _ (List.mem_reverse.mp member)]
    exact dropWhile_eq_self (List.head?_reverse.trans atLast) lastNotBlank
  rw [strip, trim, String.toList_append, String.toList_append, List.append_assoc, fromFront,
    List.reverse_append, fromBack, List.reverse_reverse, String.ofList_toList]

/-- A space in front of a text is stripped. -/
theorem strip_space_cons {text : String} (trimmed : IsTrimmed text) :
    strip (String.ofList (' ' :: text.toList)) = text := by
  have spaced : String.ofList (' ' :: text.toList) = " " ++ text ++ "" := by
    refine String.toList_injective ?_
    rw [String.toList_ofList, String.append_empty, String.toList_append]
    rfl
  have blank : IsBlankText " " := List.forall_mem_singleton.mpr rfl
  rw [spaced]
  exact strip_append_blanks trimmed blank nofun

/-! ## Marks between texts -/

section

variable {mark : Char} {separator text : String}

/-- Where characters of a class end is told by the mark that follows. -/
theorem takeWhile_dropWhile_append_cons
    {inClass : Char → Bool}
    {characters : List Char}
    (inside : ∀ character ∈ characters, inClass character = true)
    (outside : inClass mark = false)
    (rest : List Char) :
    (characters ++ mark :: rest).takeWhile inClass = characters ∧
      (characters ++ mark :: rest).dropWhile inClass = mark :: rest := by
  have stops : ¬inClass mark = true := Bool.eq_false_iff.mp outside
  constructor
  · rw [List.takeWhile_append_of_pos inside, List.takeWhile_cons_of_neg stops, List.append_nil]
  · rw [List.dropWhile_append_of_pos inside, List.dropWhile_cons_of_neg stops]

theorem forall_ne_of_not_mem (absent : mark ∉ text.toList) :
    ∀ character ∈ text.toList, decide (character ≠ mark) = true := by
  intro character member
  refine decide_eq_true fun same => ?_
  exact absent (same ▸ member)

/-- A text ends at the first mark after it. -/
theorem cut_append
    (isMark : separator.toList = [mark])
    (absent : mark ∉ text.toList)
    (rest : String) :
    cut mark (text ++ separator ++ rest) = (text, some rest) := by
  obtain ⟨before, after⟩ := takeWhile_dropWhile_append_cons (forall_ne_of_not_mem absent)
    (decide_eq_false (not_not_intro rfl)) rest.toList
  simp only [cut, toList_append_mark isMark, before, after, String.ofList_toList]

theorem cut_of_not_mem (absent : mark ∉ text.toList) : cut mark text = (text, none) := by
  have others := forall_ne_of_not_mem absent
  have before : text.toList.takeWhile (· ≠ mark) = text.toList :=
    List.takeWhile_eq_self_iff.mpr others
  have after : text.toList.dropWhile (· ≠ mark) = [] := List.dropWhile_eq_nil_iff.mpr others
  rw [cut, before, after, String.ofList_toList]

/-- The pieces of a joined text are those that were joined, if there is one at least. -/
theorem splitAtChar_intercalate
    (isMark : separator.toList = [mark])
    {part : String}
    {parts : List String}
    (absent : ∀ piece ∈ part :: parts, mark ∉ piece.toList) :
    splitAtChar mark (separator.intercalate (part :: parts)) = part :: parts := by
  have unbroken {piece : String} (absent : mark ∉ piece.toList) :
      ∀ character ∈ piece.toList, decide (character = mark) = false := by
    intro character member
    refine decide_eq_false fun same => ?_
    exact absent (same ▸ member)
  induction parts generalizing part with
  | nil =>
      obtain ⟨here, -⟩ := List.forall_mem_cons.mp absent
      rw [String.intercalate_singleton, splitAtChar, segments_of_unbroken (unbroken here),
        List.map_singleton, String.ofList_toList]
  | cons next parts hypothesis =>
      obtain ⟨here, others⟩ := List.forall_mem_cons.mp absent
      rw [String.intercalate_cons_cons, splitAtChar, toList_append_mark isMark,
        segments_append_cons (unbroken here) (decide_eq_true rfl), List.map_cons,
        String.ofList_toList]
      exact congrArg (List.cons part) (hypothesis others)

end

end Text
end ExactAlgebra
