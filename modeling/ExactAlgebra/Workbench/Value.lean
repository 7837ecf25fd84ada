import ExactAlgebra.Binary64.Decimal
import ExactAlgebra.Pass.Basic
import ExactAlgebra.Trace
import ExactAlgebra.Workbench.Node

/-!
# Values of the workbench

The workbench calls the library on values whose kind is only known when the call
is made. Besides fractions, expressions and passes there are the plain values
that they are made from, and some that nothing can be made from.
-/

namespace ExactAlgebra
namespace Workbench

/-- A value of which only the text matters. -/
structure Shown where
  text : String
  /-- The text of a copy, whose fractions are made from integers. -/
  copied : String

namespace Shown

/-- A text. -/
def ofText (text : String) : Shown where
  text := text
  copied := text

/-- A copy. -/
def copy (shown : Shown) : Shown :=
  ofText shown.copied

end Shown

/-- What a drawing puts in front of the lines of parts. -/
inductive Indent
  | text (value : String)
  /-- A value of another kind, which cannot be continued by a text. -/
  | unsuitable (typeName : String)

/-- What can be applied to an expression: a pass, a printer, or the blank stage
that handles no kind of expression. -/
inductive Stage
  | pass (value : Pass)
  | linearPrinter
  | treePrinter (lead : Shown) (below : Indent)
  | blank

namespace Stage

/-- The name of a stage. -/
def name : Stage → String
  | pass value => value.name
  | linearPrinter => "linear"
  | treePrinter _ _ => "tree"
  | blank => "transform"

/-- The name of the kind of a stage. -/
def typeName : Stage → String
  | pass .simplify => "Simplify"
  | pass .expand => "Expand"
  | pass (.differentiate _) => "Differentiate"
  | linearPrinter => "LinearPrinter"
  | treePrinter _ _ => "TreePrinter"
  | blank => "Transform"

/-- The call that makes a stage. -/
def construction : Stage → String
  | pass (.differentiate target) => "Differentiate(" ++ Text.quoted target.text ++ ")"
  | stage => stage.typeName ++ "()"

/-- A copy. -/
def copy : Stage → Stage
  | treePrinter lead below => treePrinter lead.copy below
  | stage => stage

/-- The printer of drawings without anything in front of their lines. -/
def plainTreePrinter : Stage :=
  treePrinter (.ofText "") (.text "")

end Stage

/-- A value without parts of its own kind. -/
inductive Atom
  | nothing
  | truth (value : Bool)
  | integer (value : Int)
  | binary (value : Binary64)
  /-- The undefined number as it is written, which is one and the same value
  wherever it stands. -/
  | undefined
  | text (value : String)
  | fraction (value : Numeral)
  | node (value : Node)
  | stage (value : Stage)
  | pipeline (stages : List Stage)

namespace Atom

/-- The name of the kind of a value. -/
def typeName : Atom → String
  | nothing => "NoneType"
  | truth _ => "bool"
  | integer _ => "int"
  | binary _ => "float"
  | undefined => "float"
  | text _ => "str"
  | fraction _ => "Rational"
  | node value => value.typeName
  | stage value => value.typeName
  | pipeline _ => "Pipeline"

/-- A value as it is written in a call. -/
def construction : Atom → String
  | nothing => "None"
  | truth value => Numeral.truthText value
  | integer value => toString value
  | binary value => value.text
  | undefined => Binary64.undefined.text
  | text value => Text.quoted value
  | fraction value => value.construction
  | node value => value.construction
  | stage value => value.construction
  | pipeline stages => "Pipeline(" ++ ", ".intercalate (stages.map Stage.name) ++ ")"

/-- A value as it is printed. -/
def display : Atom → String
  | text value => value
  | fraction value => value.text
  | node value => value.linear
  | atom => atom.construction

/-- A copy, whose fractions are made from integers. Only a copy that is read back
from a record makes the undefined number anew. -/
def copy (recorded : Bool) : Atom → Atom
  | fraction value => fraction (.plain value.value)
  | node value => node (.ofExpr value.expr)
  | undefined => if recorded then binary .undefined else undefined
  | stage value => stage value.copy
  | pipeline stages => pipeline (stages.map Stage.copy)
  | atom => atom

end Atom

/-- What a trace remembers of a value. -/
inductive Subject
  | node (value : Node)
  | text (value : String)
  /-- A value that no stage was applied to. -/
  | other (shown : Shown)
  | nothing

namespace Subject

/-- A subject as it is printed. -/
def display : Subject → String
  | node value => value.linear
  | text value => value
  | other shown => shown.text
  | nothing => "None"

/-- Subjects are equal when they are equal expressions or equal texts. -/
def same : Subject → Subject → Bool
  | node left, node right => left.expr = right.expr
  | text left, text right => left = right
  | _, _ => false

instance : BEq Subject := ⟨same⟩

/-- A copy, whose fractions are made from integers. -/
def copy : Subject → Subject
  | node value => node (.ofExpr value.expr)
  | other shown => other shown.copy
  | subject => subject

end Subject

/-- A value of the workbench. -/
inductive Value
  | atom (value : Atom)
  | list (elements : List Value)
  | tuple (elements : List Value)
  /-- A step of a trace: its place and name, and the values before and after it. -/
  | step (index name before after : Value)
  | trace (value : Trace Subject)

namespace Value

/-- The name of the kind of a value. -/
def typeName : Value → String
  | atom value => value.typeName
  | list _ => "list"
  | tuple _ => "tuple"
  | step .. => "PassStep"
  | trace _ => "PassTrace"

/-- A value as it is printed, given how it is written in a call. -/
def displayFrom (written : String) : Value → String
  | atom value => value.display
  | _ => written

mutual
/-- A value as it is written in a call. -/
def construction : Value → String
  | atom value => value.construction
  | list elements => "[" ++ ", ".intercalate (constructions elements) ++ "]"
  | tuple [element] => "(" ++ construction element ++ ",)"
  | tuple elements => "(" ++ ", ".intercalate (constructions elements) ++ ")"
  | step _ name before after =>
      name.displayFrom (construction name) ++ ": " ++
        before.displayFrom (construction before) ++ " → " ++
        after.displayFrom (construction after)
  | trace value => value.verbose Subject.display
/-- Values as they are written in a call. -/
def constructions : List Value → List String
  | [] => []
  | element :: elements => construction element :: constructions elements
end

/-- A value as it is printed. -/
def display (value : Value) : String :=
  value.displayFrom value.construction

mutual
/-- A copy of a value, which may be read back from a record. -/
def copy (recorded : Bool) : Value → Value
  | atom value => atom (value.copy recorded)
  | list elements => list (copies recorded elements)
  | tuple elements => tuple (copies recorded elements)
  | step index name before after =>
      step (copy recorded index) (copy recorded name) (copy recorded before)
        (copy recorded after)
  | trace value => trace (value.map Subject.copy)
/-- Copies of values. -/
def copies (recorded : Bool) : List Value → List Value
  | [] => []
  | element :: elements => copy recorded element :: copies recorded elements
end

/-- The value that a trace remembers. -/
def ofSubject : Subject → Value
  | .node value => atom (.node value)
  | .text value => atom (.text value)
  | .other shown => atom (.text shown.text)
  | .nothing => atom .nothing

/-- The step of a trace as a value. -/
def ofStep (source : Step Subject) : Value :=
  step (atom (.integer source.index)) (atom (.text source.name)) (ofSubject source.before)
    (ofSubject source.after)

/-- A value of which only the text matters. -/
def shown (value : Value) : Shown where
  text := value.display
  copied := (value.copy false).display

/-- What a trace remembers of a value. -/
def subject : Value → Subject
  | atom .nothing => .nothing
  | atom (.node value) => .node value
  | atom (.text value) => .text value
  | value => .other value.shown

end Value
end Workbench
end ExactAlgebra
