import ExactAlgebra.Expr.Build
import ExactAlgebra.Expr.Drawing
import ExactAlgebra.Text.Quoted
import ExactAlgebra.Workbench.Numeral

/-!
# Expressions as they were given

An expression of the workbench keeps its constants and exponents as they were
given. Everything but its texts depends on the expression alone.
-/

namespace ExactAlgebra
namespace Workbench

/-- An expression whose constants and exponents are shown as they were given. -/
inductive Node
  | number (value : Numeral)
  | symbol (name : Symbol)
  | sum (operands : List Node)
  | product (operands : List Node)
  | power (base : Node) (exponent : Numeral)

namespace Node

mutual
/-- The expression of a node. -/
def expr : Node → Expr
  | number value => .number value.value
  | symbol name => .symbol name
  | sum operands => .sum (exprs operands)
  | product operands => .product (exprs operands)
  | power base exponent => .power (expr base) exponent.value
/-- The expressions of nodes. -/
def exprs : List Node → List Expr
  | [] => []
  | node :: nodes => expr node :: exprs nodes
end

mutual
/-- The node of an expression that shows all its fractions as such. -/
def ofExpr : Expr → Node
  | .number value => number (.plain value)
  | .symbol name => symbol name
  | .sum operands => sum (ofExprs operands)
  | .product operands => product (ofExprs operands)
  | .power base exponent => power (ofExpr base) (.plain exponent)
/-- The nodes of expressions. -/
def ofExprs : List Expr → List Node
  | [] => []
  | expr :: exprs => ofExpr expr :: ofExprs exprs
end

/-- Prove a property of all nodes from the operands of sums and products and the bases of
powers. -/
@[induction_eliminator, elab_as_elim]
theorem induction
    {motive : Node → Prop}
    (number : ∀ value, motive (number value))
    (symbol : ∀ name, motive (symbol name))
    (sum : ∀ operands, (∀ operand ∈ operands, motive operand) → motive (sum operands))
    (product :
      ∀ operands, (∀ operand ∈ operands, motive operand) → motive (product operands))
    (power : ∀ base exponent, motive base → motive (power base exponent))
    (node : Node) : motive node :=
  Node.rec number symbol sum product power
    (fun _ member => nomatch member)
    (fun _ _ head tail operand member => by
      rcases List.mem_cons.mp member with equal | inTail
      · exact equal ▸ head
      · exact tail operand inTail)
    node

/-- The expressions of nodes are those of its members. -/
theorem exprs_eq_map (nodes : List Node) : exprs nodes = nodes.map expr := by
  induction nodes with
  | nil => rfl
  | cons node nodes hypothesis => rw [exprs, hypothesis, List.map_cons]

/-- Nodes keep the expressions that they are made from. -/
@[simp] theorem expr_ofExpr (source : Expr) : (ofExpr source).expr = source := by
  have all (operands : List Expr) (each : ∀ operand ∈ operands, (ofExpr operand).expr = operand) :
      exprs (ofExprs operands) = operands := by
    induction operands with
    | nil => rfl
    | cons operand others hypothesis =>
        rw [ofExprs, exprs, each operand List.mem_cons_self,
          hypothesis fun other member => each other (List.mem_cons_of_mem _ member)]
  induction source with
  | number value => rfl
  | symbol name => rfl
  | sum operands hypothesis => rw [ofExpr, expr, all operands hypothesis]
  | product operands hypothesis => rw [ofExpr, expr, all operands hypothesis]
  | power base exponent hypothesis => rw [ofExpr, expr, hypothesis]; rfl

/-- The name of the kind of a node. -/
def typeName (node : Node) : String :=
  node.expr.kind.name

mutual
/-- The linear form of a node. -/
def linear : Node → String
  | number value => value.text
  | symbol name => name.text
  | sum operands => "+(" ++ linearAll operands ++ ")"
  | product operands => "*(" ++ linearAll operands ++ ")"
  | power base exponent => "^(" ++ linear base ++ ", " ++ exponent.text ++ ")"
/-- The linear forms of nodes, separated by commas. -/
def linearAll : List Node → String
  | [] => ""
  | [operand] => linear operand
  | operand :: operands => linear operand ++ ", " ++ linearAll operands
end

mutual
/-- The constructors that build a node. -/
def construction : Node → String
  | number value => "Number(" ++ value.text ++ ")"
  | symbol name => "Variable(" ++ Text.quoted name.text ++ ")"
  | sum operands => "Sum(" ++ constructionAll operands ++ ")"
  | product operands => "Product(" ++ constructionAll operands ++ ")"
  | power base exponent => "Power(" ++ construction base ++ ", " ++ exponent.text ++ ")"
/-- The constructors that build nodes, separated by commas. -/
def constructionAll : List Node → String
  | [] => ""
  | [operand] => construction operand
  | operand :: operands => construction operand ++ ", " ++ constructionAll operands
end

mutual
/-- Draw a node with `lead` in front of its own line and `below` in front of the
lines of its parts. -/
def draw (lead below : String) : Node → String
  | number value => lead ++ value.text ++ "\n"
  | symbol name => lead ++ name.text ++ "\n"
  | sum operands => lead ++ "+\n" ++ drawAll below operands
  | product operands => lead ++ "*\n" ++ drawAll below operands
  | power base exponent =>
      lead ++ "^\n" ++ draw (below ++ Expr.branch) (below ++ Expr.trunk) base ++
        (below ++ Expr.lastBranch ++ exponent.text ++ "\n")
/-- Draw the operands of a sum or product, one below the other. -/
def drawAll (below : String) : List Node → String
  | [] => ""
  | [operand] => draw (below ++ Expr.lastBranch) (below ++ Expr.gap) operand
  | operand :: operands =>
      draw (below ++ Expr.branch) (below ++ Expr.trunk) operand ++ drawAll below operands
end

/-- The direct parts of a node. -/
def children : Node → List Node
  | sum operands => operands
  | product operands => operands
  | power base _ => [base]
  | _ => []

end Node
end Workbench
end ExactAlgebra
