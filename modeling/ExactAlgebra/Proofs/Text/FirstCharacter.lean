import ExactAlgebra.Session.Basic
import Mathlib.Data.List.TakeWhile

/-!
# How written texts start

Whether a text starts with a given word is often settled by its first character. The
first character of a written expression tells its kind: a sign or a digit for a
constant, a letter for a variable, and the operator for everything else.
-/

namespace ExactAlgebra
namespace Text

/-- The first character of a text. -/
def first? (text : String) : Option Char :=
  text.toList.head?

variable {text : String} {character : Char}

theorem ne_empty_of_first? (first : first? text = some character) : text ≠ "" := by
  rintro rfl
  cases first

theorem first?_append (first : first? text = some character) (rest : String) :
    first? (text ++ rest) = some character := by
  unfold first? at first ⊢
  rw [String.toList_append, List.head?_append, first]
  rfl

/-- Characters of a class are removed from the end only, so a first character outside
the class stays. -/
theorem first?_stripEnd
    {inClass : Char → Bool}
    (first : first? text = some character)
    (outside : inClass character = false) :
    first? (stripEnd inClass text) = some character := by
  unfold first? stripEnd at *
  obtain ⟨rest, characters⟩ := List.head?_eq_some_iff.mp first
  rw [characters, String.toList_ofList, List.reverse_cons, List.dropWhile_append]
  split
  · simp [outside]
  · simp

/-- A text that holds no character of a class is what remains of it when one such
character follows. -/
theorem stripEnd_append
    {inClass : Char → Bool}
    {mark : String}
    (outside : ∀ character ∈ text.toList, inClass character = false)
    (inside : mark.toList.all inClass = true) :
    stripEnd inClass (text ++ mark) = text := by
  have noneRemoved : text.toList.reverse.dropWhile inClass = text.toList.reverse := by
    refine List.dropWhile_eq_self_iff.mpr fun _ => ?_
    rw [Bool.not_eq_true]
    exact outside _ (List.mem_reverse.mp (List.getElem_mem _))
  have markRemoved : ∀ character ∈ mark.toList.reverse, inClass character = true := fun _ member =>
    List.all_eq_true.mp inside _ (List.mem_reverse.mp member)
  rw [stripEnd, String.toList_append, List.reverse_append,
    List.dropWhile_append_of_pos markRemoved, noneRemoved, List.reverse_reverse,
    String.ofList_toList]

/-- Texts with different first characters do not start alike. -/
theorem startsWith_eq_false
    {start : String}
    {other : Char}
    (startFirst : first? start = some other)
    (first : first? text = some character)
    (different : other ≠ character) :
    startsWith start text = false := by
  unfold first? startsWith at *
  obtain ⟨_, startCharacters⟩ := List.head?_eq_some_iff.mp startFirst
  obtain ⟨_, characters⟩ := List.head?_eq_some_iff.mp first
  rw [startCharacters, characters, List.isPrefixOf_cons_cons]
  simp [different]

/-- What follows a mark that the start does not hold has no part in the start. -/
theorem startsWith_append
    {start rest : String}
    {mark : Char}
    (absent : mark ∉ start.toList)
    (marked : first? rest = some mark) :
    startsWith start (text ++ rest) = startsWith start text := by
  obtain ⟨others, characters⟩ := List.head?_eq_some_iff.mp marked
  rw [Bool.eq_iff_iff, startsWith, startsWith, List.isPrefixOf_iff_prefix,
    List.isPrefixOf_iff_prefix, String.toList_append, characters]
  refine ⟨fun whole => ?_, fun part => part.trans (List.prefix_append _ _)⟩
  rcases List.prefix_or_prefix_of_prefix whole (List.prefix_append _ _) with part | longer
  · exact part
  · obtain ⟨excess, equal⟩ := longer
    rw [← equal, List.prefix_append_right_inj] at whole
    cases excess with
    | nil =>
        rw [List.append_nil] at equal
        exact equal ▸ List.prefix_rfl
    | cons first _ =>
        obtain ⟨rfl, _⟩ := List.cons_prefix_cons.mp whole
        exact absurd (equal ▸ List.mem_append_right _ List.mem_cons_self) absent

/-- The pieces of a joined text start with its first piece. -/
theorem first?_intercalate
    (first : first? text = some character)
    (separator : String)
    (others : List String) :
    first? (separator.intercalate (text :: others)) = some character := by
  cases others with
  | nil => rwa [String.intercalate_singleton]
  | cons other others =>
      rw [String.intercalate_cons_cons, String.append_assoc]
      exact first?_append first _

end Text

open Text

theorem exists_first?_toString_nat (number : Nat) :
    ∃ character, first? (toString number) = some character ∧ character.isDigit = true := by
  have characters : (toString number).toList = Nat.toDigits 10 number := Nat.toList_repr
  obtain ⟨digit, rest, digits⟩ := List.exists_cons_of_ne_nil (@Nat.toDigits_ne_nil number 10)
  refine ⟨digit, by rw [first?, characters, digits, List.head?_cons], ?_⟩
  exact Nat.isDigit_of_mem_toDigits (by decide) (by decide) (digits ▸ List.mem_cons_self)

/-- A written fraction starts with a minus sign or a digit. -/
theorem Fraction.exists_first?_text (value : Fraction) :
    ∃ character, first? value.text = some character ∧
      (character = '-' ∨ character.isDigit = true) := by
  have integer (number : Int) :
      ∃ character, first? (toString number) = some character ∧
        (character = '-' ∨ character.isDigit = true) := by
    cases number with
    | ofNat number =>
        obtain ⟨digit, first, isDigit⟩ := exists_first?_toString_nat number
        exact ⟨digit, first, .inr isDigit⟩
    | negSucc number => exact ⟨'-', first?_append rfl _, .inl rfl⟩
  obtain ⟨character, first, shape⟩ := integer value.num
  refine ⟨character, ?_, shape⟩
  unfold text
  split
  · exact first
  · rw [String.append_assoc]
    exact first?_append first _

theorem Symbol.exists_first?_text (name : Symbol) :
    ∃ character, first? name.text = some character ∧ character.isAlpha = true := by
  obtain ⟨letter, rest, letters⟩ := List.exists_cons_of_ne_nil name.toList_text_ne_nil
  refine ⟨letter, by rw [first?, letters, List.head?_cons], ?_⟩
  exact name.isAlpha_of_mem_text (letters ▸ List.mem_cons_self)

/-! ## Written expressions -/

/-- A character with which an expression other than a variable is written: the sign of
an operation, a minus sign, or a digit. -/
def isLeadingSign (character : Char) : Bool :=
  ['+', '*', '^', '-'].contains character || character.isDigit

theorem isLeadingSign_of_fraction
    {character : Char}
    (shape : character = '-' ∨ character.isDigit = true) :
    isLeadingSign character = true := by
  rcases shape with rfl | digit
  · rfl
  · rw [isLeadingSign, digit, Bool.or_true]

namespace Expr

variable {expr : Expr}

/-- The linear form of an expression that is no variable starts with a sign. -/
theorem exists_first?_linear (notSymbol : expr.kind ≠ .symbol) :
    ∃ character, first? expr.linear = some character ∧ isLeadingSign character = true := by
  cases expr with
  | number value =>
      obtain ⟨character, first, shape⟩ := value.exists_first?_text
      exact ⟨character, by rwa [linear], isLeadingSign_of_fraction shape⟩
  | symbol name => exact absurd rfl notSymbol
  | sum operands => exact ⟨'+', first?_append (first?_append rfl _) _, rfl⟩
  | product operands => exact ⟨'*', first?_append (first?_append rfl _) _, rfl⟩
  | power base exponent =>
      refine ⟨'^', ?_, rfl⟩
      rw [linear]
      iterate 4 refine first?_append ?_ _
      rfl

/-- The drawing of an expression that is no variable starts with a sign. -/
theorem exists_first?_drawing (notSymbol : expr.kind ≠ .symbol) :
    ∃ character, first? expr.drawing = some character ∧ isLeadingSign character = true := by
  cases expr with
  | number value =>
      obtain ⟨character, first, shape⟩ := value.exists_first?_text
      refine ⟨character, ?_, isLeadingSign_of_fraction shape⟩
      rw [drawing, draw, String.empty_append]
      exact first?_append first _
  | symbol name => exact absurd rfl notSymbol
  | sum operands => exact ⟨'+', first?_append rfl _, rfl⟩
  | product operands => exact ⟨'*', first?_append rfl _, rfl⟩
  | power base exponent => exact ⟨'^', first?_append (first?_append rfl _) _, rfl⟩

end Expr

namespace Renderer

open ExactAlgebra.Expr

/-- Both renderers write a variable as its name. -/
theorem render_symbol (renderer : Renderer) (name : Symbol) :
    renderer.render (symbol name) = name.text := by
  cases renderer with
  | linear => rfl
  | tree =>
      have letters : ∀ character ∈ name.text.toList, decide (character = '\n') = false := by
        intro character member
        rw [decide_eq_false_iff_not]
        rintro rfl
        exact absurd (name.isAlpha_of_mem_text member) (by decide)
      rw [render, drawing, draw, String.empty_append]
      exact stripEnd_append letters rfl

/-- An expression that is no variable is written with a sign in front. -/
theorem exists_first?_render
    (renderer : Renderer)
    {expr : Expr}
    (notSymbol : expr.kind ≠ .symbol) :
    ∃ character,
      first? (renderer.render expr) = some character ∧ isLeadingSign character = true := by
  cases renderer with
  | linear => exact exists_first?_linear notSymbol
  | tree =>
      obtain ⟨character, first, sign⟩ := exists_first?_drawing notSymbol
      refine ⟨character, first?_stripEnd first ?_, sign⟩
      rw [decide_eq_false_iff_not]
      rintro rfl
      cases sign

theorem render_ne_empty (renderer : Renderer) (expr : Expr) : renderer.render expr ≠ "" := by
  by_cases isSymbol : expr.kind = .symbol
  · cases expr with
    | symbol name =>
        obtain ⟨_, first, _⟩ := name.exists_first?_text
        rw [render_symbol]
        exact ne_empty_of_first? first
    | number _ | sum _ | product _ | power _ _ => cases isSymbol
  · obtain ⟨_, first, _⟩ := renderer.exists_first?_render isSymbol
    exact ne_empty_of_first? first

end Renderer
end ExactAlgebra
