import ExactAlgebra.Expr.Basic
import ExactAlgebra.Text.Quoted

/-!
# Expressions on one line

The linear form writes an operator in front of its parenthesised operands, as in
`+(3, x, *(2, ^(y, 1/2)))`. The construction form names the constructors that
build the expression, as in `Sum(Number(3), Variable('x'))`.
-/

namespace ExactAlgebra
namespace Expr

mutual
/-- The linear form of an expression. -/
def linear : Expr → String
  | number value => value.text
  | symbol name => name.text
  | sum operands => "+(" ++ linearAll operands ++ ")"
  | product operands => "*(" ++ linearAll operands ++ ")"
  | power base exponent => "^(" ++ linear base ++ ", " ++ exponent.text ++ ")"
/-- The linear forms of expressions, separated by commas. -/
def linearAll : List Expr → String
  | [] => ""
  | [operand] => linear operand
  | operand :: operands => linear operand ++ ", " ++ linearAll operands
end

mutual
/-- The constructors that build an expression. -/
def construction : Expr → String
  | number value => "Number(" ++ value.text ++ ")"
  | symbol name => "Variable(" ++ Text.quoted name.text ++ ")"
  | sum operands => "Sum(" ++ constructionAll operands ++ ")"
  | product operands => "Product(" ++ constructionAll operands ++ ")"
  | power base exponent => "Power(" ++ construction base ++ ", " ++ exponent.text ++ ")"
/-- The constructors that build expressions, separated by commas. -/
def constructionAll : List Expr → String
  | [] => ""
  | [operand] => construction operand
  | operand :: operands => construction operand ++ ", " ++ constructionAll operands
end

end Expr
end ExactAlgebra
