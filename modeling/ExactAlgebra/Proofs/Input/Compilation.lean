import ExactAlgebra.Input.Program
import ExactAlgebra.Proofs.Input.StackMachine
import ExactAlgebra.Proofs.Text.Words

/-!
# Compiling terms to programs

A term is compiled to a program that defines its right operand, then its left operand,
and then applies the operator to the numbers of the two results. Whatever was defined
before stays as it is, so the numbers still mean the same when the operator is read.
Hence the program defines the expression that Polish notation reads, and where one of
the two formats refuses a term, the other refuses it for the same reason.
-/

namespace ExactAlgebra
namespace Input

open Text

/-! ## The words of a line -/

theorem IntegerToken.isWord_text (token : IntegerToken) : IsWord token.text := by
  obtain ⟨digit, member, _⟩ := token.exists_isDigit
  refine ⟨List.ne_nil_of_mem member, ?_⟩
  have digits : ∀ digit ∈ token.digits, isBlank digit = false := fun digit inDigits =>
    isBlank_eq_false_of_isAlphanum (Bool.or_eq_true_iff.mpr (.inr (token.decimal digit inDigits)))
  rw [text, String.toList_ofList, characters]
  split
  · exact List.forall_mem_cons.mpr ⟨rfl, digits⟩
  · exact digits

theorem Leaf.isWord_text (leaf : Leaf) : IsWord leaf.text := by
  cases leaf with
  | symbol name => exact name.isWord_text
  | integer token => exact token.isWord_text

theorem Operator.isWord_sign (operator : Operator) : IsWord operator.sign := by
  cases operator <;> exact isWord_of_all (by decide) (by decide)

theorem isWord_toString (number : Nat) : IsWord (toString number) := by
  rw [← IntegerToken.text_ofNat]
  exact IntegerToken.isWord_text _

namespace PrefixTerm

/-- The term in Polish notation. -/
def text (term : PrefixTerm) : String :=
  " ".intercalate term.tokens

theorem words_text (term : PrefixTerm) : words term.text = term.tokens := by
  refine words_intercalate ?_
  induction term with
  | leaf written => exact List.forall_mem_singleton.mpr written.isWord_text
  | apply operator left right leftHypothesis rightHypothesis =>
      refine List.forall_mem_cons.mpr ⟨operator.isWord_sign, ?_⟩
      exact List.forall_mem_append.mpr ⟨leftHypothesis, rightHypothesis⟩

/-! ## The program of a term -/

/-- Number of leaves and operators, each of which becomes one line. -/
def size : PrefixTerm → Nat
  | leaf _ => 1
  | apply _ left right => right.size + left.size + 1

/-- The line that defines a leaf. -/
def leafLine (written : Leaf) : String :=
  " ".intercalate [".", written.text]

/-- The line that applies an operator to the definitions with two numbers. -/
def operatorLine (operator : Operator) (left right : Nat) : String :=
  " ".intercalate [operator.sign, toString left, toString right]

theorem areWords_leafLine (written : Leaf) : ∀ word ∈ [".", written.text], IsWord word := by
  have dot : IsWord "." := isWord_of_all (by decide) (by decide)
  simp [dot, written.isWord_text]

theorem areWords_operatorLine (operator : Operator) (left right : Nat) :
    ∀ word ∈ [operator.sign, toString left, toString right], IsWord word := by
  refine List.forall_mem_cons.mpr ⟨operator.isWord_sign, ?_⟩
  refine List.forall_mem_cons.mpr ⟨isWord_toString left, ?_⟩
  exact List.forall_mem_singleton.mpr (isWord_toString right)

/-- The lines that define a term after a number of earlier definitions: those of the
right operand, those of the left operand, and the operator with the numbers of their
results. -/
def lines (earlier : Nat) : PrefixTerm → List String
  | leaf written => [leafLine written]
  | apply operator left right =>
      let afterRight := earlier + right.size
      let afterLeft := afterRight + left.size
      right.lines earlier ++
        (left.lines afterRight ++ [operatorLine operator (afterLeft - 1) (afterRight - 1)])

end PrefixTerm

namespace Program

open PrefixTerm

/-! ## Reading a line -/

variable {program next : Program}

theorem readLine_leafLine (program : Program) (written : Leaf) :
    program.readLine (leafLine written) = .ok written.expr := by
  rw [readLine, leafLine, words_intercalate (areWords_leafLine written), readWords,
    written.readLeaf?_text]

theorem resolve_toString
    {index : Nat}
    {expr : Expr}
    (found : program.expressions[index]? = some expr) :
    program.resolve (toString index) = .ok expr := by
  have read : readInteger? (toString index) = some (index : Int) := by
    rw [← IntegerToken.text_ofNat, readInteger?_text, IntegerToken.value_ofNat]
  have notNegative : ¬(index : Int) < 0 := by omega
  simp only [resolve, read, if_neg notNegative, Int.toNat_natCast, found]

theorem readWords_sign (program : Program) (operator : Operator) (arguments : List String) :
    program.readWords (operator.sign :: arguments) =
      arguments.mapM program.resolve >>= combine .program operator := by
  cases operator <;> rfl

theorem readLine_operatorLine
    {operator : Operator}
    {leftIndex rightIndex : Nat}
    {left right : Expr}
    (foundLeft : program.expressions[leftIndex]? = some left)
    (foundRight : program.expressions[rightIndex]? = some right) :
    program.readLine (operatorLine operator leftIndex rightIndex) =
      (operator.build left right).mapError (·.inFormat .program) := by
  rw [readLine, operatorLine, words_intercalate (areWords_operatorLine _ _ _), readWords_sign,
    List.mapM_cons, resolve_toString foundLeft, List.mapM_cons, resolve_toString foundRight]
  exact combine_pair .program operator left right

/-! ## Running the lines -/

theorem foldlM_define_singleton (program : Program) (line : String) :
    [line].foldlM define program = program.define line := by
  rw [List.foldlM_cons]
  exact bind_pure _

/-- The program goes on with a number of definitions, the last of which is the
expression. -/
structure Continues (program next : Program) (count : Nat) (expr : Expr) : Prop where
  kept : program.expressions <+: next.expressions
  size : next.size = program.size + count
  last : next.last? = some expr

namespace Continues

variable {middle : Program} {count more : Nat} {expr first second : Expr}

theorem append (program : Program) (expr : Expr) :
    program.Continues (program.append expr) 1 expr where
  kept := List.prefix_append _ _
  size := size_append program expr
  last := last?_append program expr

theorem trans
    (start : program.Continues middle count first)
    (rest : middle.Continues next more second) :
    program.Continues next (count + more) second where
  kept := start.kept.trans rest.kept
  size := by rw [rest.size, start.size, Nat.add_assoc]
  last := rest.last

/-- The last definition has the number before the size of the program. -/
theorem getElem?_last (continues : program.Continues next count expr) :
    next.expressions[next.size - 1]? = some expr :=
  List.getLast?_eq_getElem?.symm.trans continues.last

/-- Definitions keep their numbers. -/
theorem getElem?_kept
    (continues : program.Continues next count expr)
    {index : Nat}
    {found : Expr}
    (defined : program.expressions[index]? = some found) :
    next.expressions[index]? = some found := by
  obtain ⟨added, equal⟩ := continues.kept
  obtain ⟨bound, _⟩ := List.getElem?_eq_some_iff.mp defined
  rw [← equal, List.getElem?_append_left bound, defined]

end Continues

/-- After any program, running the lines of a term does what building the term does: it
stops for the same reason, or the expression is the last of the new definitions. -/
theorem foldlM_define_lines (term : PrefixTerm) (program : Program) :
    (∃ cause, term.build = .error cause ∧
        (term.lines program.size).foldlM define program = .error (cause.inFormat .program)) ∨
      ∃ expr next, term.build = .ok expr ∧
        (term.lines program.size).foldlM define program = .ok next ∧
          program.Continues next term.size expr := by
  induction term generalizing program with
  | leaf written =>
      refine .inr ⟨written.expr, program.append written.expr, rfl, ?_, .append _ _⟩
      rw [PrefixTerm.lines, foldlM_define_singleton, define, readLine_leafLine]
      rfl
  | apply operator left right leftHypothesis rightHypothesis =>
      rw [PrefixTerm.lines, build]
      rcases rightHypothesis program with
        ⟨cause, rightFails, stopped⟩ | ⟨second, afterRight, rightBuilt, rightRan, throughRight⟩
      · refine .inl ⟨cause, ?_, foldlM_append_of_eq_error stopped _⟩
        rw [rightFails]
        rfl
      rw [← throughRight.size, rightBuilt, foldlM_append_of_eq_ok rightRan]
      rcases leftHypothesis afterRight with
        ⟨cause, leftFails, stopped⟩ | ⟨first, afterLeft, leftBuilt, leftRan, throughLeft⟩
      · refine .inl ⟨cause, ?_, foldlM_append_of_eq_error stopped _⟩
        rw [leftFails]
        rfl
      -- The result of the right operand keeps its number while the left one is defined.
      have operatorRead :
          afterLeft.readLine (operatorLine operator (afterLeft.size - 1) (afterRight.size - 1)) =
            (operator.build first second).mapError (·.inFormat .program) :=
        readLine_operatorLine throughLeft.getElem?_last
          (throughLeft.getElem?_kept throughRight.getElem?_last)
      rw [← throughLeft.size, leftBuilt, foldlM_append_of_eq_ok leftRan, foldlM_define_singleton,
        define, operatorRead]
      cases applied : operator.build first second with
      | error cause => exact .inl ⟨cause, applied, rfl⟩
      | ok expr =>
          refine .inr ⟨expr, afterLeft.append expr, applied, rfl, ?_⟩
          exact (throughRight.trans throughLeft).trans (.append afterLeft expr)

/-! ## Whole programs -/

/-- The line is read as it stands. -/
structure IsPlain (line : String) : Prop where
  stripped : strip line = line
  kept : isIgnored line = false

theorem isPlain_intercalate
    {head : String}
    {others : List String}
    {character : Char}
    (areWords : ∀ word ∈ head :: others, IsWord word)
    (first : first? head = some character)
    (noComment : '#' ≠ character) :
    IsPlain (" ".intercalate (head :: others)) := by
  have stripped := (isTrimmed_intercalate " " areWords).strip_eq
  have lineFirst := first?_intercalate first " " others
  refine ⟨stripped, ?_⟩
  rw [isIgnored, stripped, startsWith_eq_false rfl lineFirst noComment, Bool.or_false,
    decide_eq_false_iff_not]
  exact ne_empty_of_first? lineFirst

theorem isPlain_leafLine (written : Leaf) : IsPlain (leafLine written) :=
  isPlain_intercalate (areWords_leafLine written) rfl (by decide)

theorem isPlain_operatorLine (operator : Operator) (left right : Nat) :
    IsPlain (operatorLine operator left right) := by
  have areWords := areWords_operatorLine operator left right
  cases operator <;> exact isPlain_intercalate areWords rfl (by decide)

theorem isPlain_of_mem_lines (term : PrefixTerm) (earlier : Nat) :
    ∀ line ∈ term.lines earlier, IsPlain line := by
  induction term generalizing earlier with
  | leaf written => exact List.forall_mem_singleton.mpr (isPlain_leafLine written)
  | apply operator left right leftHypothesis rightHypothesis =>
      refine List.forall_mem_append.mpr ⟨rightHypothesis _, ?_⟩
      refine List.forall_mem_append.mpr ⟨leftHypothesis _, ?_⟩
      exact List.forall_mem_singleton.mpr (isPlain_operatorLine _ _ _)

theorem ofLines_of_isPlain {lines : List String} (plain : ∀ line ∈ lines, IsPlain line) :
    ofLines lines = lines.foldlM define empty := by
  have allKept : lines.filter (!isIgnored ·) = lines := by
    refine List.filter_eq_self.mpr fun line member => ?_
    rw [(plain line member).kept, Bool.not_false]
  have sameLines : lines.map strip = lines :=
    (List.map_congr_left fun line member => (plain line member).stripped).trans (List.map_id' _)
  rw [ofLines, allKept, sameLines]

/-- The program of a term defines the expression of the term, or is refused where
building the term is. -/
theorem parse_lines (term : PrefixTerm) :
    parse (term.lines 0) = term.build.mapError (·.inFormat .program) := by
  have run := foldlM_define_lines term empty
  rw [show empty.size = 0 from rfl] at run
  rw [parse, ofLines_of_isPlain (isPlain_of_mem_lines term 0)]
  rcases run with ⟨cause, failed, stopped⟩ | ⟨expr, final, built, ran, through⟩
  · rw [failed, stopped]
    rfl
  · rw [built, ran]
    dsimp only [bind, Except.bind]
    rw [through.last]
    rfl

end Program
end Input

namespace ReadError

/-- The same failure in another format, with the same description. -/
def inFormat (format : Format) : ReadError → ReadError
  | refused _ reason => .refused format reason
  | rewrite cause => .rewrite cause

end ReadError

namespace Input
namespace PrefixTerm

/-- The program of a term is read as the same expression as its Polish notation. If one
is refused then so is the other, for the same reason: either the same rewriting fails,
or the refusals differ at most in the format that they name. -/
theorem parse_lines_eq_parse_text (term : PrefixTerm) :
    Program.parse (term.lines 0) =
      (Polish.parse term.text).mapError (·.inFormat .program) := by
  rw [Program.parse_lines, Polish.parse_of_words_eq_tokens term.words_text]
  cases term.build with
  | ok expr => rfl
  | error cause => cases cause <;> rfl

example : Polish.squareRootOfX.lines 0 = [". 2", ". 1", "/ 1 0", ". x", "^ 3 2"] := by decide +kernel

end PrefixTerm
end Input
end ExactAlgebra
