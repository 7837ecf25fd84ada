import ExactAlgebra.Input.Basic

/-!
# Polish notation

An operator stands in front of its two operands, so no parentheses are needed:
`* 2 ^ x 3` is two times the third power of x. The words of a text are read from
right to left onto a stack, and every operator replaces the two expressions on
top of it.
-/

namespace ExactAlgebra
namespace Input
namespace Polish

/-- Read one word onto the stack of the expressions to its right. -/
def push (stack : List Expr) (token : String) : Except ReadError (List Expr) :=
  match Operator.ofSign? token with
  | some operator =>
      match stack with
      | left :: right :: rest => do
          let result ← combine .polish operator [left, right]
          return result :: rest
      | _ => .error (.refused .polish .notEnoughOperands)
  | none =>
      match readLeaf? token with
      | some leaf => .ok (leaf :: stack)
      | none => .error (.refused .polish .invalidNumber)

/-- Read the words of an expression. -/
def parseWords (tokens : List String) : Except ReadError Expr := do
  match ← tokens.reverse.foldlM push [] with
  | [] => .error (.refused .polish .emptyText)
  | [expr] => .ok expr
  | _ => .error (.refused .polish .tooManyOperands)

/-- Read an expression in Polish notation. -/
def parse (text : String) : Except ReadError Expr :=
  parseWords (Text.words text)

end Polish
end Input
end ExactAlgebra
