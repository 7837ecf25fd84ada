import ExactAlgebra.Workbench.Comparison
import ExactAlgebra.Workbench.Construct
import ExactAlgebra.Workbench.Node.Derivative
import ExactAlgebra.Workbench.Node.Expand

/-!
# Pass operations of the workbench

Making stages and pipelines, and applying them. A pipeline of the workbench may
hold printers as well as passes; what follows a printer meets a text.
-/

namespace ExactAlgebra
namespace Workbench

/-- Apply a pass to a node. -/
def Node.rewrite (node : Node) : Pass → Outcome Node
  | .simplify => node.simplify
  | .expand => node.expand
  | .differentiate target => return node.derivative target

namespace Stage

/-- Draw a node. A lone line needs nothing in front of the lines of parts. -/
def drawNode (lead : String) (below : Indent) (node : Node) : Outcome String :=
  match below with
  | .text below => .ok (node.draw lead below)
  | .unsuitable typeName =>
      if node.children.isEmpty then .ok (node.draw lead "")
      else if typeName = "list" || typeName = "tuple" then
        .error (.mismatch (.continuation typeName))
      else .error (.mismatch (.unsupported "+" typeName "str"))

/-- Apply a stage to a node. -/
def applyTo (stage : Stage) (node : Node) : Outcome Subject :=
  match stage with
  | pass rule => return .node (← node.rewrite rule)
  | linearPrinter => return .text node.linear
  | treePrinter lead below => return .text (← drawNode lead.text below node)
  | blank => .error (.unhandled stage.typeName node.typeName)

/-- Apply stages in order, numbering the steps from `index` on. -/
def steps (index : Nat) : List Stage → Subject → Outcome (List (Step Subject))
  | [], _ => return []
  | stage :: others, .node before => do
      let after ← stage.applyTo before
      let rest ← steps (index + 1) others after
      return { index := index, name := stage.name, before := .node before, after := after } ::
        rest
  | _ :: _, _ => .error (.missing "str" "transform")

end Stage

/-- Apply stages in order and record what they did. -/
def traced (stages : List Stage) (subject : Value) : Outcome (Trace Subject) := do
  let start ←
    if stages.isEmpty then pure subject.subject
    else (subject.toNode "transform").map Subject.node
  let completed ← Stage.steps 0 stages start
  return .ofSteps start completed

/-- Operations on passes and pipelines. -/
inductive PassOperation
  | simplify
  | expand
  | differentiate
  | linear
  | drawing
  | drawingWith
  /-- Make a stage that takes no arguments. -/
  | make (stage : Stage)
  | makeDifferentiate
  | makeTreePrinter
  | target
  | pipeline
  | read
  | readList
  | knownNames
  | apply
  | transform
  | trace
  | step
  | changed
  | emptyTrace
  | size
  | elements

namespace PassOperation

/-- Apply a stage to an expression given as a value of any kind. -/
def applyStage (stage : Stage) (value : Value) : Outcome Value := do
  let node ← value.toNode "transform"
  return .ofSubject (← stage.applyTo node)

/-- Apply a stage or the stages of a pipeline to a value. -/
def applyAny (applied subject : Value) : Outcome Value :=
  match applied with
  | .atom (.stage stage) => applyStage stage subject
  | .atom (.pipeline []) => return subject
  | .atom (.pipeline stages) => do return .ofSubject (← traced stages subject).final
  | applied => .error (.mismatch (.notCallable applied.typeName))

/-- Record what a pipeline does to a value. -/
def traceAny (applied subject : Value) : Outcome Value :=
  match applied with
  | .atom (.pipeline stages) => do return .trace (← traced stages subject)
  | .atom (.stage _) => .error (.mismatch .untraced)
  | applied => .error (.mismatch (.notCallable applied.typeName))

/-- The name of the handler that a kind of expression asks for. -/
def handler (kind : Expr.Kind) : String :=
  "visit_" ++ Text.lower kind.name

/-- Call an operation on passes. -/
def call : PassOperation → List Value → Outcome Value
  | simplify, [value] => applyStage (.pass .simplify) value
  | expand, [value] => applyStage (.pass .expand) value
  | differentiate, [value, name] => do
      let node ← value.toNode "transform"
      applyStage (.pass (.differentiate (← Construct.symbol name))) (.node node)
  | linear, [value] => applyStage .linearPrinter value
  | drawing, [value] => applyStage .plainTreePrinter value
  | drawingWith, [value] => applyStage .plainTreePrinter value
  | drawingWith, [value, lead] => applyStage (Construct.treePrinter lead (.text "")) value
  | drawingWith, [value, lead, below] => applyStage (Construct.treePrinter lead below) value
  | make stage, [] => return .stage stage
  | makeDifferentiate, [name] =>
      return .stage (.pass (.differentiate (← Construct.symbol name)))
  | makeTreePrinter, [] => return .stage .plainTreePrinter
  | makeTreePrinter, [lead] => return .stage (Construct.treePrinter lead (.text ""))
  | makeTreePrinter, [lead, below] => return .stage (Construct.treePrinter lead below)
  | target, [.atom (.stage (.pass (.differentiate symbol)))] => return .text symbol.text
  | target, [value] => .error (.missing value.typeName "variable")
  | pipeline, [] => return .pipeline []
  | pipeline, [members] => return .pipeline (← (← members.elements).mapM Construct.stage)
  | read, [text] => do
      return .stage (.pass (← (Pass.read (← text.toText "strip")).mapError .passName))
  | readList, [text] => do
      let passes ← (Pass.readList (← text.toText "split")).mapError .passName
      return .pipeline (passes.map .pass)
  | knownNames, [] => return .list (Pass.knownNames.map .text)
  | apply, [applied, subject] => applyAny applied subject
  | transform, [value, .atom (.stage stage)] => applyStage stage value
  | transform, [value, other] => do
      let node ← value.toNode "transform"
      .error (.missing other.typeName (handler node.expr.kind))
  | trace, [applied, subject] => traceAny applied subject
  | step, [index, name, before, after] => return .step index name before after
  | changed, [value] =>
      match value.changed? with
      | some differs => return .truth differs
      | none => .error (.missing value.typeName "changed")
  | emptyTrace, [] => return .trace { initial := .nothing, steps := [], final := .nothing }
  | size, [value] => return .integer (← value.size)
  | elements, [value] => return .list (← value.elements)
  | _, _ => .error (.mismatch .arguments)

end PassOperation
end Workbench
end ExactAlgebra
