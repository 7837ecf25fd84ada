import ExactAlgebra.Expr.Basic

/-!
# Expressions drawn as trees

A drawing has one line for each node, with branches of box-drawing characters:

    +
    ├── 3
    ╰── ^
        ├── y
        ╰── 1/2

The exponent of a power is drawn as its last branch.
-/

namespace ExactAlgebra
namespace Expr

/-- The branch to a part that others follow. -/
def branch : String := "├── "

/-- The continuation below such a branch. -/
def trunk : String := "│   "

/-- The branch to the last part. -/
def lastBranch : String := "╰── "

/-- The continuation below the last branch. -/
def gap : String := "    "

mutual
/-- Draw an expression with `lead` in front of its own line and `below` in front
of the lines of its parts. -/
def draw (lead below : String) : Expr → String
  | number value => lead ++ value.text ++ "\n"
  | symbol name => lead ++ name.text ++ "\n"
  | sum operands => lead ++ "+\n" ++ drawAll below operands
  | product operands => lead ++ "*\n" ++ drawAll below operands
  | power base exponent =>
      lead ++ "^\n" ++ draw (below ++ branch) (below ++ trunk) base ++
        (below ++ lastBranch ++ exponent.text ++ "\n")
/-- Draw the operands of a sum or product, one below the other. -/
def drawAll (below : String) : List Expr → String
  | [] => ""
  | [operand] => draw (below ++ lastBranch) (below ++ gap) operand
  | operand :: operands =>
      draw (below ++ branch) (below ++ trunk) operand ++ drawAll below operands
end

/-- The drawing of an expression, which ends with a line feed. -/
def drawing (expr : Expr) : String :=
  draw "" "" expr

end Expr
end ExactAlgebra
