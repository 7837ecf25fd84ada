import ExactAlgebra.Proofs.Guarded.Stages
import ExactAlgebra.Proofs.Input.Leaf
import ExactAlgebra.Proofs.WellFormed.Reading

/-!
# Guarded readers

Reading takes words for numbers by their pattern, expressions off a stack by their
number, and operands by their position. Here the conversion of a word to a number, every
removal from the stack and every access by position is guarded, and operators build sums
and products with constructors that count their operands.

The pattern of integers admits nothing that the conversion refuses, and all positions
are compared before they are used. So the guarded readers end as the plain ones do, as
long as the expressions that they start from are well formed.
-/

namespace ExactAlgebra
namespace Guarded

open ExactAlgebra.Expr ExactAlgebra.Workbench ExactAlgebra.Input

/-- A failure to read, as the fault that it is: what an exponent is refused for is not
the fault of the format. -/
def readFault : ReadError → Fault
  | .refused format reason => .read (.refused format reason)
  | .rewrite cause => .rewrite cause

/-! ## Leaves -/

/-- The word has an optional minus sign in front of one or more digits. -/
def isIntegerText (word : String) : Bool :=
  match word.toList with
  | '-' :: digits => !digits.isEmpty && digits.all Char.isDigit
  | digits => !digits.isEmpty && digits.all Char.isDigit

/-- Convert a word to an integer. -/
def toInteger (word : String) : Outcome Int :=
  match Text.integer? word with
  | some value => .ok value
  | none => .error (.integerText word)

/-- The variable with a name. -/
def toVariable (word : String) : Outcome Expr :=
  match Symbol.ofText? word with
  | some name => .ok (.symbol name)
  | none => .error (.malformed (.symbolName (Text.quoted word)))

/-- Read a variable or an integer. -/
def leaf (word : String) : Outcome (Option Expr) :=
  if isSymbolText word then do return some (← toVariable word)
  else if isIntegerText word then do return some (.number (.ofInt (← toInteger word)))
  else .ok none

theorem isIntegerText_iff {word : String} :
    isIntegerText word = true ↔ ∃ token : IntegerToken, token.text = word := by
  constructor
  · intro matched
    unfold isIntegerText at matched
    split at matched
    · rename_i digits characters
      rw [Bool.and_eq_true, Bool.not_eq_true', List.isEmpty_eq_false_iff] at matched
      refine ⟨⟨true, digits, matched.1, List.all_eq_true.mp matched.2⟩, ?_⟩
      exact String.toList_injective (String.toList_ofList.trans characters.symm)
    · rw [Bool.and_eq_true, Bool.not_eq_true', List.isEmpty_eq_false_iff] at matched
      exact ⟨⟨false, word.toList, matched.1, List.all_eq_true.mp matched.2⟩, String.ofList_toList⟩
  · rintro ⟨⟨negative, digits, nonempty, decimal⟩, rfl⟩
    have allDigits : (!digits.isEmpty && digits.all Char.isDigit) = true := by
      rw [Bool.and_eq_true, Bool.not_eq_true', List.isEmpty_eq_false_iff]
      exact ⟨nonempty, List.all_eq_true.mpr decimal⟩
    unfold isIntegerText IntegerToken.text IntegerToken.characters
    rw [String.toList_ofList]
    cases negative with
    | true => exact allDigits
    | false =>
        simp only [Bool.false_eq_true, if_false]
        split
        · exact absurd (decimal '-' List.mem_cons_self) (by decide)
        · exact allDigits

/-- Every word that follows the pattern is converted to the integer that it writes. -/
theorem toInteger_text (token : IntegerToken) : toInteger token.text = .ok token.value := by
  rw [toInteger, integer?_text]

theorem readInteger?_eq_none {word : String} (unwritten : ¬ isIntegerText word = true) :
    readInteger? word = none := by
  cases read : readInteger? word with
  | none => rfl
  | some value =>
      exact absurd (isIntegerText_iff.mpr (exists_text_eq_of_readInteger? read)) unwritten

/-- Reading a leaf meets no guard. -/
theorem leaf_eq (word : String) : leaf word = .ok (readLeaf? word) := by
  rw [leaf, readLeaf?, toVariable, Symbol.ofText?]
  by_cases named : isSymbolText word = true
  · rw [if_pos named, dif_pos named]
    rfl
  · rw [if_neg named, dif_neg named]
    by_cases written : isIntegerText word = true
    · obtain ⟨token, rfl⟩ := isIntegerText_iff.mp written
      rw [if_pos written, toInteger_text, readInteger?_text]
      rfl
    · rw [if_neg written, readInteger?_eq_none written]
      rfl

/-! ## Operators -/

/-- The first expression minus all others. -/
def difference (operands : List Expr) : Outcome Expr :=
  if operands.length < 2 then
    .error (.malformed (.tooFewOperands "Subtraction" operands.length))
  else do
    let first ← front operands
    let others ← operands.tail.mapM fun other => Checked.productOf [minusOne, other]
    Checked.sumOf (first :: others)

/-- The first expression divided by all others. -/
def quotient (operands : List Expr) : Outcome Expr :=
  if operands.length < 2 then
    .error (.malformed (.tooFewOperands "Division" operands.length))
  else do
    let first ← front operands
    Checked.productOf (first :: operands.tail.map fun other => power other (-1))

/-- A power whose exponent has to simplify to a constant. -/
def raiseTo (format : Format) (base exponent : Expr) : Outcome Expr := do
  match ← simplify exponent with
  | number value => return power base value
  | _ => .error (.read (.refused format .exponentNotRational))

/-- Powers associate to the right, and start from the last operand. -/
def raiseAll (format : Format) : List Expr → Outcome Expr
  | [] => .error .outOfRange
  | [operand] => .ok operand
  | base :: others => do raiseTo format base (← raiseAll format others)

/-- Apply an operator to operands. -/
def operation
    (format : Format)
    (operator : Operator)
    (operands : List Expr) : Outcome Expr :=
  if operands.length < 2 then .error (.read (.refused format .notEnoughOperands))
  else
    match operator with
    | .plus => Checked.sumOf operands
    | .minus => difference operands
    | .times => Checked.productOf operands
    | .slash => quotient operands
    | .caret => raiseAll format operands

theorem raiseTo_eq
    (format : Format)
    (base : Expr)
    {exponent : Expr}
    (wellFormed : WellFormed exponent) :
    raiseTo format base exponent = (Input.raise format base exponent).mapError readFault := by
  rw [raiseTo, (agreesOnWellFormed_simplify exponent wellFormed).same, Input.raise, Expr.raiseTo,
    exponentValue]
  cases exponent.simplify with
  | error cause => rfl
  | ok simplified => cases simplified <;> rfl

theorem raiseAll_eq
    (format : Format)
    {base : Expr}
    {others : List Expr}
    (wellFormed : ∀ operand ∈ base :: others, WellFormed operand) :
    raiseAll format (base :: others) =
      (Input.raiseAll format base others).mapError readFault := by
  induction others generalizing base with
  | nil => rfl
  | cons next others hypothesis =>
      obtain ⟨_, restWellFormed⟩ := List.forall_mem_cons.mp wellFormed
      rw [raiseAll, hypothesis restWellFormed, Input.raiseAll, mapError_bind]
      · cases raised : Input.raiseAll format next others with
        | error cause => rfl
        | ok exponent =>
            have exponentWellFormed :=
              wellFormed_raiseAll (restWellFormed next List.mem_cons_self) raised
            exact raiseTo_eq format base exponentWellFormed
      · exact List.cons_ne_nil _ _

/-- The negated operands and their sum with the first one count two operands each. -/
theorem agrees_difference
    {first : Expr}
    {others : List Expr}
    (nonempty : others ≠ [])
    (wellFormed : ∀ operand ∈ first :: others, WellFormed operand) :
    Checked.Agrees WellFormed (difference (first :: others))
      (.ok (Expr.difference first others)) := by
  have several : 2 ≤ (first :: others).length :=
    Nat.succ_le_succ (List.length_pos_of_ne_nil nonempty)
  obtain ⟨firstWellFormed, othersWellFormed⟩ := List.forall_mem_cons.mp wellFormed
  have negated : Checked.Agrees (∀ term ∈ ·, WellFormed term)
      (others.mapM fun other => Checked.productOf [minusOne, other])
      (.ok (others.map fun other => Expr.productOf [minusOne, other])) := by
    refine Checked.Agrees.mapM_ok fun other member => Checked.agrees_productOf (by simp) ?_
    exact List.forall_mem_cons.mpr
      ⟨.number (-1), List.forall_mem_singleton.mpr (othersWellFormed other member)⟩
  rw [difference, if_neg (by omega)]
  refine negated.bind_ok fun termsWellFormed => Checked.agrees_sumOf ?_ ?_
  · rw [List.length_cons, List.length_map]
    exact several
  · exact List.forall_mem_cons.mpr ⟨firstWellFormed, termsWellFormed⟩

theorem agrees_quotient
    {first : Expr}
    {others : List Expr}
    (nonempty : others ≠ [])
    (wellFormed : ∀ operand ∈ first :: others, WellFormed operand) :
    Checked.Agrees WellFormed (quotient (first :: others))
      (.ok (Expr.quotient first others)) := by
  have several : 2 ≤ (first :: others).length :=
    Nat.succ_le_succ (List.length_pos_of_ne_nil nonempty)
  obtain ⟨firstWellFormed, othersWellFormed⟩ := List.forall_mem_cons.mp wellFormed
  rw [quotient, if_neg (by omega)]
  refine Checked.agrees_productOf ?_ (List.forall_mem_cons.mpr ⟨firstWellFormed, ?_⟩)
  · rw [List.tail_cons, List.length_cons, List.length_map]
    exact several
  · exact List.forall_mem_map.mpr fun other member =>
      .power other (-1) (othersWellFormed other member)

/-- On well-formed operands an operator meets no guard. -/
theorem operation_eq
    (format : Format)
    (operator : Operator)
    {operands : List Expr}
    (wellFormed : ∀ operand ∈ operands, WellFormed operand) :
    operation format operator operands =
      (combine format operator operands).mapError readFault := by
  match operands with
  | [] => rfl
  | [_] => rfl
  | first :: second :: others =>
      have several : 2 ≤ (first :: second :: others).length := by simp
      unfold operation
      rw [if_neg (by omega)]
      cases operator with
      | plus => exact (Checked.agrees_sumOf several wellFormed).same
      | minus => exact (agrees_difference (List.cons_ne_nil _ _) wellFormed).same
      | times => exact (Checked.agrees_productOf several wellFormed).same
      | slash => exact (agrees_quotient (List.cons_ne_nil _ _) wellFormed).same
      | caret => exact raiseAll_eq format wellFormed

/-! ## Polish notation -/

/-- Take the expression on top off a stack. -/
def pop : List Expr → Outcome (Expr × List Expr)
  | [] => .error .outOfRange
  | top :: rest => .ok (top, rest)

/-- Read one word onto the stack of the expressions to its right. -/
def push (stack : List Expr) (word : String) : Outcome (List Expr) :=
  match Operator.ofSign? word with
  | some operator =>
      if stack.length < 2 then .error (.read (.refused .polish .notEnoughOperands))
      else do
        let (left, others) ← pop stack
        let (right, rest) ← pop others
        return (← operation .polish operator [left, right]) :: rest
  | none => do
      match ← leaf word with
      | some expr => return expr :: stack
      | none => .error (.read (.refused .polish .invalidNumber))

/-- Read an expression in Polish notation. -/
def parsePolish (text : String) : Outcome Expr := do
  let stack ← (Text.words text).reverse.foldlM push []
  if stack.isEmpty then .error (.read (.refused .polish .emptyText))
  else if 1 < stack.length then .error (.read (.refused .polish .tooManyOperands))
  else front stack

/-- The operands of an operator are on the stack when they are taken off it. -/
theorem push_eq
    (stack : List Expr)
    (word : String)
    (wellFormed : ∀ expr ∈ stack, WellFormed expr) :
    push stack word = (Polish.push stack word).mapError readFault := by
  rw [push, Polish.push]
  cases Operator.ofSign? word with
  | none =>
      simp only [leaf_eq]
      cases readLeaf? word <;> rfl
  | some operator =>
      rcases stack with _ | ⟨left, _ | ⟨right, rest⟩⟩
      · rfl
      · rfl
      · have both : ∀ operand ∈ [left, right], WellFormed operand := fun operand member =>
          wellFormed operand (List.mem_append_left rest member)
        dsimp only
        rw [if_neg (by simp), mapError_bind, ← operation_eq .polish operator both]
        rfl

theorem parsePolish_eq (text : String) :
    parsePolish text = (Polish.parse text).mapError readFault := by
  have words : (Text.words text).reverse.foldlM push [] =
      ((Text.words text).reverse.foldlM Polish.push []).mapError readFault :=
    foldlM_mapError push_eq Polish.wellFormed_push (List.forall_mem_nil _)
  rw [parsePolish, words, Polish.parse, Polish.parseWords]
  cases (Text.words text).reverse.foldlM Polish.push [] with
  | error cause => rfl
  | ok stack =>
      match stack with
      | [] => rfl
      | [_] => rfl
      | _ :: _ :: _ => rfl

/-! ## Straight-line programs -/

/-- The member of a list at a position. -/
def elementAt (list : List α) (index : Nat) : Outcome α :=
  match list[index]? with
  | some element => .ok element
  | none => .error .outOfRange

/-- The expression with a written number. -/
def resolve (expressions : List Expr) (argument : String) : Outcome Expr :=
  if isIntegerText argument then do
    let index ← toInteger argument
    if index < 0 then .error (.read (.refused .program .negativeIndex))
    else if expressions.length ≤ index then .error (.read (.refused .program .indexOutOfBounds))
    else elementAt expressions index.toNat
  else .error (.read (.refused .program .invalidToken))

/-- The expression that a line defines. -/
def readLine (expressions : List Expr) (line : String) : Outcome Expr :=
  let words := Text.words line
  if words.isEmpty then .error (.read (.refused .program .emptyLine))
  else do
    let head ← front words
    let arguments := words.tail
    if head = "." then
      if arguments.length = 1 then do
        match ← leaf (← front arguments) with
        | some expr => return expr
        | none => .error (.read (.refused .program .invalidToken))
      else .error (.read (.refused .program .dotArguments))
    else
      match Operator.ofSign? head with
      | none => .error (.read (.refused .program .unknownOperator))
      | some operator => do
          operation .program operator (← arguments.mapM (resolve expressions))

/-- Numbers of lines are compared with the number of lines before they are used. -/
theorem resolve_eq (program : Program) (argument : String) :
    resolve program.expressions argument = (program.resolve argument).mapError readFault := by
  rw [resolve, Program.resolve]
  by_cases written : isIntegerText argument = true
  · obtain ⟨token, rfl⟩ := isIntegerText_iff.mp written
    rw [if_pos written, toInteger_text, readInteger?_text]
    change (if _ then _ else _) = Except.mapError _ (if _ then _ else _)
    split
    · rfl
    · rename_i nonnegative
      unfold elementAt
      split
      · rename_i beyond
        rw [List.getElem?_eq_none (by omega)]
        rfl
      · rename_i within
        rw [List.getElem?_eq_getElem (by omega)]
        rfl
  · rw [if_neg written, readInteger?_eq_none written]
    rfl

theorem readWords_of_ne_dot
    (program : Program)
    {head : String}
    (notDot : head ≠ ".")
    (arguments : List String) :
    program.readWords (head :: arguments) =
      match Operator.ofSign? head with
      | none => .error (.refused .program .unknownOperator)
      | some operator => arguments.mapM program.resolve >>= combine .program operator := by
  unfold Program.readWords
  split
  · rename_i same
    cases same
  · rename_i same
    exact absurd (List.cons.inj same).1 notDot
  · rename_i same
    exact absurd (List.cons.inj same).1 notDot
  · rename_i same
    obtain ⟨rfl, rfl⟩ := List.cons.inj same
    cases Operator.ofSign? head <;> rfl

/-- Reading a line of a well-formed program meets no guard. -/
theorem readLine_eq {program : Program} (wellFormed : program.WellFormed) (line : String) :
    readLine program.expressions line = (program.readLine line).mapError readFault := by
  rw [readLine, Program.readLine]
  cases Text.words line with
  | nil => rfl
  | cons head arguments =>
      change (if head = "." then _ else _) = _
      by_cases dot : head = "."
      · subst dot
        match arguments with
        | [] => rfl
        | [argument] =>
            change (leaf argument >>= _) = _
            rw [leaf_eq, Program.readWords]
            cases readLeaf? argument <;> rfl
        | _ :: _ :: _ => rfl
      · rw [if_neg dot, readWords_of_ne_dot program dot]
        cases Operator.ofSign? head with
        | none => rfl
        | some operator =>
            have operands : arguments.mapM (resolve program.expressions) =
                (arguments.mapM program.resolve).mapError readFault :=
              mapM_mapError fun argument _ => resolve_eq program argument
            change (List.mapM _ arguments >>= operation .program operator) = _
            rw [operands, mapError_bind]
            cases found : arguments.mapM program.resolve with
            | error cause => rfl
            | ok operands =>
                refine operation_eq .program operator fun operand member => ?_
                obtain ⟨argument, _, resolved⟩ := exists_of_mem_mapM found member
                exact wellFormed.resolve resolved

end Guarded
end ExactAlgebra
