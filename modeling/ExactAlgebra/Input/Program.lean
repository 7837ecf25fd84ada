import ExactAlgebra.Input.Basic

/-!
# Straight-line programs

A program defines one expression on each line. A line is a dot with a variable or
an integer, or an operator with the numbers of earlier lines, counted from zero.
A line that cannot be read leaves the program as it was.
-/

namespace ExactAlgebra
namespace Input

/-- The expressions that the lines of a program have defined, in order. -/
structure Program where
  expressions : List Expr

namespace Program

/-- The program without lines. -/
def empty : Program := { expressions := [] }

/-- Number of defined expressions. -/
def size (program : Program) : Nat :=
  program.expressions.length

/-- The expression defined last. -/
def last? (program : Program) : Option Expr :=
  program.expressions.getLast?

/-- The expression at a position, where negative positions count from the end. -/
def get? (program : Program) (position : Int) : Option Expr :=
  let index := if position < 0 then position + program.size else position
  if index < 0 then none else program.expressions[index.toNat]?

/-- How many expressions the program defines, in words. -/
def describe (program : Program) : String :=
  "StraightLineParser(" ++ toString program.size ++ " expressions)"

/-- The expression with a written number. -/
def resolve (program : Program) (argument : String) : Except ReadError Expr :=
  match readInteger? argument with
  | none => .error (.refused .program .invalidToken)
  | some index =>
      if index < 0 then .error (.refused .program .negativeIndex)
      else
        match program.expressions[index.toNat]? with
        | none => .error (.refused .program .indexOutOfBounds)
        | some expr => .ok expr

/-- The expression that the words of a line define. -/
def readWords (program : Program) : List String → Except ReadError Expr
  | [] => .error (.refused .program .emptyLine)
  | "." :: [argument] =>
      match readLeaf? argument with
      | some leaf => .ok leaf
      | none => .error (.refused .program .invalidToken)
  | "." :: _ => .error (.refused .program .dotArguments)
  | head :: arguments =>
      match Operator.ofSign? head with
      | none => .error (.refused .program .unknownOperator)
      | some operator => do
          let operands ← arguments.mapM program.resolve
          combine .program operator operands

/-- The expression that a line defines. -/
def readLine (program : Program) (line : String) : Except ReadError Expr :=
  program.readWords (Text.words line)

/-- The program with one more expression. -/
def append (program : Program) (expr : Expr) : Program :=
  { expressions := program.expressions ++ [expr] }

@[simp] theorem size_append (program : Program) (expr : Expr) :
    (program.append expr).size = program.size + 1 := by
  simp [append, size]

@[simp] theorem last?_append (program : Program) (expr : Expr) :
    (program.append expr).last? = some expr := by
  simp [append, last?]

/-- Read one line and add the expression it defines. -/
def define (program : Program) (line : String) : Except ReadError Program := do
  let expr ← program.readLine line
  return program.append expr

/-- The line holds neither a definition nor a command: it is blank or a comment. -/
def isIgnored (line : String) : Bool :=
  Text.strip line = "" || Text.startsWith "#" (Text.strip line)

/-- Read the lines of a program, passing over blank lines and comments. -/
def ofLines (lines : List String) : Except ReadError Program :=
  ((lines.filter (!isIgnored ·)).map Text.strip).foldlM define empty

/-- Read the lines of a program and return its last expression. -/
def parse (lines : List String) : Except ReadError Expr := do
  let program ← ofLines lines
  match program.last? with
  | some expr => .ok expr
  | none => .error (.refused .program .emptyProgram)

end Program
end Input
end ExactAlgebra
