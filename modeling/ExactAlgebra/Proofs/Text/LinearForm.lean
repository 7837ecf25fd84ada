import ExactAlgebra.Proofs.CanonicalOrder
import ExactAlgebra.Proofs.Fraction.Text
import ExactAlgebra.Proofs.Text.FirstCharacter
import ExactAlgebra.Workbench.Comparison

/-!
# The linear form determines the expression

No two expressions have the same linear form. The first character tells the kind of an
expression, and constants and names end at the first comma or closing parenthesis. So
wherever a written expression is followed by nothing or by one of these, the characters
tell where it ends and what it is. This holds of the operands of a sum or product one
after the other, and of the base and the exponent of a power.
-/

namespace ExactAlgebra
namespace Expr

open Text

/-! ## The ends of leaves -/

/-- The characters that may follow a written expression within another one. -/
def isSeparator (character : Char) : Bool :=
  character == ',' || character == ')'

theorem isSeparator_eq_false_iff {character : Char} :
    isSeparator character = false ↔ character ≠ ',' ∧ character ≠ ')' := by
  simp [isSeparator]

/-- No constant holds a separator. -/
theorem isSeparator_eq_false_of_mem_fraction
    {value : Fraction}
    {character : Char}
    (member : character ∈ value.text.toList) :
    isSeparator character = false := by
  rcases Fraction.eq_minus_or_slash_or_isDigit_of_mem_text member with rfl | rfl | digit
  · rfl
  · rfl
  · rw [isSeparator_eq_false_iff]
    constructor <;> rintro rfl <;> cases digit

/-- No name holds a separator. -/
theorem isSeparator_eq_false_of_mem_symbol
    {name : Symbol}
    {character : Char}
    (member : character ∈ name.text.toList) :
    isSeparator character = false := by
  have letter := name.isAlpha_of_mem_text member
  rw [isSeparator_eq_false_iff]
  constructor <;> rintro rfl <;> cases letter

/-! ## The kind of a written expression -/

/-- The kind of the expressions that are written with a character in front. -/
def Kind.ofFirst? (character : Char) : Option Kind :=
  if character.isAlpha then some .symbol
  else if character == '-' || character.isDigit then some .number
  else
    match character with
    | '+' => some .sum
    | '*' => some .product
    | '^' => some .power
    | _ => none

/-- The first character of a linear form tells the kind of the expression. -/
theorem exists_ofFirst?_linear (expr : Expr) :
    ∃ character, first? expr.linear = some character ∧
      Kind.ofFirst? character = some expr.kind := by
  cases expr with
  | number value =>
      obtain ⟨character, first, shape⟩ := value.exists_first?_text
      refine ⟨character, by rwa [linear], ?_⟩
      rcases shape with rfl | digit
      · rfl
      · unfold Kind.ofFirst?
        rw [if_neg (isAlpha_ne_true_of_isDigit digit), if_pos (by rw [digit, Bool.or_true])]
        rfl
  | symbol name =>
      obtain ⟨character, first, letter⟩ := name.exists_first?_text
      exact ⟨character, by rwa [linear], if_pos letter⟩
  | sum operands => exact ⟨'+', first?_append (first?_append rfl _) _, rfl⟩
  | product operands => exact ⟨'*', first?_append (first?_append rfl _) _, rfl⟩
  | power base exponent =>
      refine ⟨'^', ?_, rfl⟩
      rw [linear]
      iterate 4 refine first?_append ?_ _
      rfl

/-- A linear form starts with a character of its kind, whatever follows it. -/
theorem exists_toList_linear (expr : Expr) :
    ∃ character rest, expr.linear.toList = character :: rest ∧
      Kind.ofFirst? character = some expr.kind := by
  obtain ⟨character, first, kind⟩ := expr.exists_ofFirst?_linear
  obtain ⟨rest, characters⟩ := List.head?_eq_some_iff.mp first
  exact ⟨character, rest, characters, kind⟩

/-! ## The characters of a written expression -/

theorem toList_linear_sum (operands : List Expr) :
    (sum operands).linear.toList = '+' :: '(' :: ((linearAll operands).toList ++ [')']) := by
  rw [linear, String.toList_append, String.toList_append]
  rfl

theorem toList_linear_product (operands : List Expr) :
    (product operands).linear.toList = '*' :: '(' :: ((linearAll operands).toList ++ [')']) := by
  rw [linear, String.toList_append, String.toList_append]
  rfl

theorem toList_linear_power (base : Expr) (exponent : Fraction) :
    (power base exponent).linear.toList =
      '^' :: '(' :: (base.linear.toList ++ ',' :: ' ' :: (exponent.text.toList ++ [')'])) := by
  simp only [linear, String.toList_append, List.append_assoc]
  rfl

/-- The characters that write further operands, each after a comma and a blank. -/
def furtherOperands : List Expr → List Char
  | [] => []
  | operand :: operands => ',' :: ' ' :: (operand.linear.toList ++ furtherOperands operands)

/-- Operands are written as the first one and the further ones. -/
theorem toList_linearAll_cons (operand : Expr) (operands : List Expr) :
    (linearAll (operand :: operands)).toList =
      operand.linear.toList ++ furtherOperands operands := by
  induction operands generalizing operand with
  | nil => rw [linearAll, furtherOperands, List.append_nil]
  | cons next others hypothesis =>
      rw [linearAll, String.toList_append, String.toList_append, hypothesis, furtherOperands,
        List.append_assoc]
      · rfl
      · exact nofun

/-! ## Where written expressions end -/

/-- Followed by nothing or by a separator, an expression is known from its linear form,
and so is what follows. -/
def IsKnownFromLinear (expr : Expr) : Prop :=
  ∀ (other : Expr) (rest otherRest : List Char),
    StartsMarked isSeparator rest → StartsMarked isSeparator otherRest →
      expr.linear.toList ++ rest = other.linear.toList ++ otherRest →
        expr = other ∧ rest = otherRest

theorem startsMarked_furtherOperands (operands : List Expr) (rest : List Char) :
    StartsMarked isSeparator (furtherOperands operands ++ ')' :: rest) := by
  cases operands with
  | nil => exact .cons rfl _
  | cons operand operands => exact .cons rfl _

/-- Operands up to the closing parenthesis are known if each of them is. -/
theorem furtherOperands_append_inj
    {operands others : List Expr}
    {rest otherRest : List Char}
    (known : ∀ operand ∈ operands, IsKnownFromLinear operand)
    (equal : furtherOperands operands ++ ')' :: rest =
      furtherOperands others ++ ')' :: otherRest) :
    operands = others ∧ rest = otherRest := by
  induction operands generalizing others with
  | nil =>
      cases others with
      | nil => exact ⟨rfl, (List.cons.inj equal).2⟩
      | cons other others => cases (List.cons.inj equal).1
  | cons operand operands hypothesis =>
      cases others with
      | nil => cases (List.cons.inj equal).1
      | cons other others =>
          obtain ⟨headKnown, tailKnown⟩ := List.forall_mem_cons.mp known
          simp only [furtherOperands, List.cons_append, List.append_assoc, List.cons.injEq,
            true_and] at equal
          obtain ⟨rfl, remaining⟩ := headKnown other _ _
            (startsMarked_furtherOperands _ _) (startsMarked_furtherOperands _ _) equal
          obtain ⟨rfl, sameRest⟩ := hypothesis tailKnown remaining
          exact ⟨rfl, sameRest⟩

theorem linearAll_append_inj
    {operands others : List Expr}
    {rest otherRest : List Char}
    (known : ∀ operand ∈ operands, IsKnownFromLinear operand)
    (equal : (linearAll operands).toList ++ ')' :: rest =
      (linearAll others).toList ++ ')' :: otherRest) :
    operands = others ∧ rest = otherRest := by
  -- No expression starts with a closing parenthesis.
  have notClosed {operand : Expr} {operands : List Expr} {first second : List Char}
      (equal : (linearAll (operand :: operands)).toList ++ first = ')' :: second) : False := by
    obtain ⟨character, _, characters, kind⟩ := operand.exists_toList_linear
    rw [toList_linearAll_cons, characters] at equal
    cases (List.cons.inj equal).1
    cases kind
  cases operands with
  | nil =>
      cases others with
      | nil => exact ⟨rfl, (List.cons.inj equal).2⟩
      | cons other others => exact (notClosed equal.symm).elim
  | cons operand operands =>
      cases others with
      | nil => exact (notClosed equal).elim
      | cons other others =>
          obtain ⟨headKnown, tailKnown⟩ := List.forall_mem_cons.mp known
          rw [toList_linearAll_cons, toList_linearAll_cons, List.append_assoc,
            List.append_assoc] at equal
          obtain ⟨rfl, remaining⟩ := headKnown other _ _
            (startsMarked_furtherOperands _ _) (startsMarked_furtherOperands _ _) equal
          obtain ⟨rfl, sameRest⟩ := furtherOperands_append_inj tailKnown remaining
          exact ⟨rfl, sameRest⟩

/-- Expressions with the same characters in front of what follows have the same kind. -/
theorem kind_eq_of_append_eq
    {expr other : Expr}
    {rest otherRest : List Char}
    (equal : expr.linear.toList ++ rest = other.linear.toList ++ otherRest) :
    expr.kind = other.kind := by
  obtain ⟨character, _, characters, kind⟩ := expr.exists_toList_linear
  obtain ⟨otherCharacter, _, otherCharacters, otherKind⟩ := other.exists_toList_linear
  rw [characters, otherCharacters] at equal
  cases (List.cons.inj equal).1
  exact Option.some.inj (kind.symm.trans otherKind)

/-- Every expression is known from its linear form. -/
theorem isKnownFromLinear (expr : Expr) : IsKnownFromLinear expr := by
  induction expr with
  | number value =>
      intro other rest otherRest marked otherMarked equal
      cases other with
      | number otherValue =>
          rw [linear, linear] at equal
          obtain ⟨sameText, sameRest⟩ := append_inj_of_startsMarked
            (fun _ => isSeparator_eq_false_of_mem_fraction)
            (fun _ => isSeparator_eq_false_of_mem_fraction) marked otherMarked equal
          rw [Fraction.text_injective (String.toList_injective sameText)]
          exact ⟨rfl, sameRest⟩
      | _ => cases kind_eq_of_append_eq equal
  | symbol name =>
      intro other rest otherRest marked otherMarked equal
      cases other with
      | symbol otherName =>
          rw [linear, linear] at equal
          obtain ⟨sameText, sameRest⟩ := append_inj_of_startsMarked
            (fun _ => isSeparator_eq_false_of_mem_symbol)
            (fun _ => isSeparator_eq_false_of_mem_symbol) marked otherMarked equal
          rw [Symbol.text_injective (String.toList_injective sameText)]
          exact ⟨rfl, sameRest⟩
      | _ => cases kind_eq_of_append_eq equal
  | sum operands hypothesis =>
      intro other rest otherRest _ _ equal
      cases other with
      | sum others =>
          simp only [toList_linear_sum, List.cons_append, List.append_assoc, List.cons.injEq,
            true_and] at equal
          obtain ⟨rfl, sameRest⟩ := linearAll_append_inj hypothesis equal
          exact ⟨rfl, sameRest⟩
      | _ => cases kind_eq_of_append_eq equal
  | product operands hypothesis =>
      intro other rest otherRest _ _ equal
      cases other with
      | product others =>
          simp only [toList_linear_product, List.cons_append, List.append_assoc, List.cons.injEq,
            true_and] at equal
          obtain ⟨rfl, sameRest⟩ := linearAll_append_inj hypothesis equal
          exact ⟨rfl, sameRest⟩
      | _ => cases kind_eq_of_append_eq equal
  | power base exponent hypothesis =>
      intro other rest otherRest _ _ equal
      cases other with
      | power otherBase otherExponent =>
          simp only [toList_linear_power, List.cons_append, List.append_assoc, List.cons.injEq,
            true_and] at equal
          obtain ⟨rfl, afterBase⟩ :=
            hypothesis otherBase _ _ (.cons rfl _) (.cons rfl _) equal
          simp only [List.cons.injEq, true_and] at afterBase
          obtain ⟨sameExponent, afterExponent⟩ := append_inj_of_startsMarked
            (fun _ => isSeparator_eq_false_of_mem_fraction)
            (fun _ => isSeparator_eq_false_of_mem_fraction) (.cons rfl _) (.cons rfl _)
            afterBase
          rw [Fraction.text_injective (String.toList_injective sameExponent)]
          exact ⟨rfl, (List.cons.inj afterExponent).2⟩
      | _ => cases kind_eq_of_append_eq equal

/-- No two expressions have the same linear form. -/
theorem linear_injective : Function.Injective linear := by
  intro first second equal
  have padded : first.linear.toList ++ [] = second.linear.toList ++ [] := by rw [equal]
  exact (first.isKnownFromLinear second [] [] (.nil _) (.nil _) padded).1

end Expr

/-! ## Steps of passes -/

namespace Workbench

/-- The node of an expression is written as the expression is. -/
theorem Node.linear_ofExpr (expr : Expr) : (Node.ofExpr expr).linear = expr.linear := by
  have all (operands : List Expr)
      (each : ∀ operand ∈ operands, (Node.ofExpr operand).linear = operand.linear) :
      Node.linearAll (Node.ofExprs operands) = Expr.linearAll operands := by
    induction operands with
    | nil => rfl
    | cons operand others hypothesis =>
        obtain ⟨head, tail⟩ := List.forall_mem_cons.mp each
        cases others with
        | nil => exact head
        | cons next others =>
            have rest := hypothesis tail
            simp only [Node.ofExprs, Node.linearAll, Expr.linearAll] at rest ⊢
            rw [head, rest]
  induction expr with
  | number value => rfl
  | symbol name => rfl
  | sum operands hypothesis => rw [Node.ofExpr, Node.linear, all operands hypothesis, Expr.linear]
  | product operands hypothesis =>
      rw [Node.ofExpr, Node.linear, all operands hypothesis, Expr.linear]
  | power base exponent hypothesis => rw [Node.ofExpr, Node.linear, hypothesis]; rfl

end Workbench

open Workbench

/-- Two expressions have the same linear form exactly when they are equal. So the texts
before and after a step of a pass differ exactly when the step counts as a change, also
where the workbench shows the step. -/
theorem linear_eq_iff_and_changed_iff :
    (∀ left right : Expr, left.linear = right.linear ↔ left = right) ∧
      (∀ step : Step Expr, step.before.linear ≠ step.after.linear ↔ step.changed = true) ∧
      ∀ step : Step Expr, ∃ index name before after,
        Value.ofStep (step.map fun expr => .node (.ofExpr expr)) =
            .step index name before after ∧
          before.display = step.before.linear ∧ after.display = step.after.linear ∧
          (before.display ≠ after.display ↔
            (Value.step index name before after).changed? = some true) := by
  have told (left right : Expr) : left.linear = right.linear ↔ left = right :=
    Expr.linear_injective.eq_iff
  refine ⟨told, fun step => ?_, fun step => ⟨_, _, _, _, rfl, ?_, ?_, ?_⟩⟩
  · rw [ne_eq, told, Step.changed, bne_iff_ne]
  · exact Node.linear_ofExpr step.before
  · exact Node.linear_ofExpr step.after
  · change (Node.ofExpr step.before).linear ≠ (Node.ofExpr step.after).linear ↔
      some (!decide ((Node.ofExpr step.before).expr.compare (Node.ofExpr step.after).expr = .eq)) =
        some true
    rw [Node.linear_ofExpr, Node.linear_ofExpr, Node.expr_ofExpr, Node.expr_ofExpr, ne_eq, told]
    simp [Expr.compare_eq_eq_iff]

end ExactAlgebra
