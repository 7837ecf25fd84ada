import ExactAlgebra.Input.Polish
import ExactAlgebra.Proofs.Evaluation.Basic
import ExactAlgebra.Proofs.FailingMap
import ExactAlgebra.Proofs.Input.PrefixTerm

/-!
# Reading prefix notation from right to left

The reader of Polish notation keeps a stack. Reading the words of a term puts the
expression of the term on the stack, or fails as building the term does. Conversely,
after any words that were read without failure the stack holds the expressions of terms,
and the words are those of these terms, one after the other. So exactly the words of
single terms are read.
-/

namespace ExactAlgebra
namespace Input
namespace Polish

/-! ## The words of a term -/

theorem push_text (leaf : Leaf) (stack : List Expr) :
    push stack leaf.text = .ok (leaf.expr :: stack) := by
  simp only [push, leaf.ofSign?_text, leaf.readLeaf?_text]

theorem push_sign (operator : Operator) (left right : Expr) (stack : List Expr) :
    push (left :: right :: stack) operator.sign = do
      let expr ← (operator.build left right).mapError (·.inFormat .polish)
      return expr :: stack := by
  simp only [push, Operator.ofSign?_sign, combine_pair]

/-- Reading the words of a term builds the term on top of the stack. -/
theorem foldlM_push_tokens (term : PrefixTerm) (stack : List Expr) :
    term.tokens.reverse.foldlM push stack = do
      let expr ← term.build.mapError (·.inFormat .polish)
      return expr :: stack := by
  induction term generalizing stack with
  | leaf written =>
      rw [PrefixTerm.tokens, List.reverse_singleton, List.foldlM_cons, push_text]
      rfl
  | apply operator left right leftHypothesis rightHypothesis =>
      rw [PrefixTerm.tokens, PrefixTerm.build, List.reverse_cons, List.reverse_append,
        List.foldlM_append, List.foldlM_append, rightHypothesis]
      simp only [bind_assoc, pure_bind, leftHypothesis, List.foldlM_cons, List.foldlM_nil,
        push_sign, mapError_bind]

/-- The words of a term are read as building the term says. -/
theorem parse_of_words_eq_tokens
    {text : String}
    {term : PrefixTerm}
    (spelled : Text.words text = term.tokens) :
    parse text = term.build.mapError (·.inFormat .polish) := by
  rw [parse, parseWords, spelled, foldlM_push_tokens]
  cases term.build <;> rfl

/-! ## The terms on the stack -/

/-- The stack holds the expressions of terms, and the words are those of the terms, one
after the other. -/
def HoldsTerms (words : List String) (stack : List Expr) : Prop :=
  ∃ terms : List PrefixTerm,
    terms.flatMap PrefixTerm.tokens = words ∧
      List.Forall₂ (fun term expr => term.build = .ok expr) terms stack

/-- A word makes a new term: a leaf, or an operator applied to the two terms on top. -/
theorem HoldsTerms.push
    {words : List String}
    {word : String}
    {stack next : List Expr}
    (holds : HoldsTerms words stack)
    (pushed : Polish.push stack word = .ok next) :
    HoldsTerms (word :: words) next := by
  obtain ⟨terms, spelled, built⟩ := holds
  unfold Polish.push at pushed
  split at pushed
  · rename_i operator found
    split at pushed
    · rename_i left right rest
      obtain ⟨leftTerm, others, leftBuilt, othersBuilt, rfl⟩ :=
        List.forall₂_cons_right_iff.mp built
      obtain ⟨rightTerm, below, rightBuilt, belowBuilt, rfl⟩ :=
        List.forall₂_cons_right_iff.mp othersBuilt
      obtain ⟨expr, combined, last⟩ := except_bind_eq_ok pushed
      cases last
      rw [combine_pair] at combined
      refine ⟨.apply operator leftTerm rightTerm :: below, ?_, .cons ?_ belowBuilt⟩
      · rw [List.flatMap_cons, PrefixTerm.tokens, Operator.sign_of_ofSign?_eq_some found,
          List.cons_append, List.append_assoc, ← spelled, List.flatMap_cons, List.flatMap_cons]
      · rw [PrefixTerm.build, rightBuilt, leftBuilt]
        exact eq_ok_of_mapError_eq_ok combined
    · cases pushed
  · split at pushed
    · rename_i leaf found
      cases pushed
      obtain ⟨written, rfl, rfl⟩ := readLeaf?_eq_some_iff.mp found
      refine ⟨.leaf written :: terms, ?_, .cons rfl built⟩
      rw [List.flatMap_cons, spelled]
      rfl
    · cases pushed

theorem holdsTerms_of_foldlM_push
    {words : List String}
    {stack : List Expr}
    (read : words.reverse.foldlM push [] = .ok stack) :
    HoldsTerms words stack := by
  induction words generalizing stack with
  | nil =>
      cases read
      exact ⟨[], rfl, .nil⟩
  | cons word words hypothesis =>
      rw [List.reverse_cons, List.foldlM_append] at read
      obtain ⟨before, earlier, last⟩ := except_bind_eq_ok read
      rw [List.foldlM_cons] at last
      obtain ⟨after, pushed, same⟩ := except_bind_eq_ok last
      cases same
      exact (hypothesis earlier).push pushed

/-- What is read is a term that the whole text spells. -/
theorem exists_term_of_parse_eq_ok
    {text : String}
    {expr : Expr}
    (read : parse text = .ok expr) :
    ∃ term : PrefixTerm, term.tokens = Text.words text ∧ term.build = .ok expr := by
  obtain ⟨stack, reading, last⟩ := except_bind_eq_ok read
  obtain ⟨terms, spelled, built⟩ := holdsTerms_of_foldlM_push reading
  cases built with
  | nil => cases last
  | @cons term top terms rest termBuilt others =>
      cases others with
      | nil =>
          cases last
          rw [List.flatMap_cons, List.flatMap_nil, List.append_nil] at spelled
          exact ⟨term, spelled, termBuilt⟩
      | cons second others => cases last

/-- A text is read as an expression exactly when its words are those of a term that
builds the expression. No two terms have the same words, and a text whose words are
those of no term is refused. -/
theorem parse_eq_ok_iff_exists_term :
    (∀ text expr,
      parse text = .ok expr ↔
        ∃ term : PrefixTerm, term.tokens = Text.words text ∧ term.build = .ok expr) ∧
      Function.Injective PrefixTerm.tokens ∧
        ∀ text, (∀ term : PrefixTerm, term.tokens ≠ Text.words text) →
          ∃ cause, parse text = .error cause := by
  refine ⟨fun text expr => ⟨exists_term_of_parse_eq_ok, ?_⟩, PrefixTerm.tokens_injective, ?_⟩
  · rintro ⟨term, spelled, built⟩
    rw [parse_of_words_eq_tokens spelled.symm, built]
    rfl
  · intro text noTerm
    cases read : parse text with
    | error cause => exact ⟨cause, rfl⟩
    | ok expr =>
        obtain ⟨term, spelled, _⟩ := exists_term_of_parse_eq_ok read
        exact absurd spelled (noTerm term)

/-- The power of `x` with the exponent one half. -/
def squareRootOfX : PrefixTerm :=
  .apply .caret (.leaf (.symbol .x))
    (.apply .slash (.leaf (.integer (.ofNat 1))) (.leaf (.integer (.ofNat 2))))

theorem parse_eq_ok_iff_exists_term_squareRootOfX :
    parse "^ x / 1 2" = .ok (.power (.symbol .x) ⟨1, 2, by decide, by decide⟩) ∧
      (∀ term : PrefixTerm, term.tokens ≠ Text.words "x y") ∧
        ∃ cause, parse "x y" = .error cause := by
  obtain ⟨reads, _, refuses⟩ := parse_eq_ok_iff_exists_term
  have noTerm : ∀ term : PrefixTerm, term.tokens ≠ Text.words "x y" := by
    have spelled : Text.words "x y" = ["x", "y"] := by decide +kernel
    intro term equal
    rw [spelled] at equal
    cases term with
    | leaf written => cases (List.cons.inj equal).2
    | apply operator left right =>
        have sign : operator.sign ≠ "x" := by cases operator <;> decide
        exact sign (List.cons.inj equal).1
  refine ⟨(reads _ _).mpr ⟨squareRootOfX, ?_, ?_⟩, noTerm, refuses _ noTerm⟩
  · decide +kernel
  · decide +kernel

end Polish
end Input
end ExactAlgebra
