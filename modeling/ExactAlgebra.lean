import ExactAlgebra.Binary64.Basic
import ExactAlgebra.Binary64.Decimal
import ExactAlgebra.CommandLine.Basic
import ExactAlgebra.CommandLine.Batch
import ExactAlgebra.CommandLine.Ending
import ExactAlgebra.CommandLine.Folder
import ExactAlgebra.CommandLine.Options
import ExactAlgebra.CommandLine.Path
import ExactAlgebra.CommandLine.Terminal
import ExactAlgebra.Expr.Basic
import ExactAlgebra.Expr.Build
import ExactAlgebra.Expr.Drawing
import ExactAlgebra.Expr.Linear
import ExactAlgebra.Expr.Order
import ExactAlgebra.Fraction.Arithmetic
import ExactAlgebra.Fraction.Basic
import ExactAlgebra.Fraction.Power
import ExactAlgebra.Fraction.Text
import ExactAlgebra.Input.Basic
import ExactAlgebra.Input.Polish
import ExactAlgebra.Input.Program
import ExactAlgebra.Integer.Gcd
import ExactAlgebra.Integer.Power
import ExactAlgebra.Integer.Root
import ExactAlgebra.Main
import ExactAlgebra.Pass.Basic
import ExactAlgebra.Pass.Spec
import ExactAlgebra.Pipeline
import ExactAlgebra.Proofs.AlikeOutcomes
import ExactAlgebra.Proofs.CanonicalOrder
import ExactAlgebra.Proofs.CommandLine.ProgramBatch
import ExactAlgebra.Proofs.CommandLine.ReplyStreams
import ExactAlgebra.Proofs.Derivative.DualNumber
import ExactAlgebra.Proofs.Derivative.KeptProperties
import ExactAlgebra.Proofs.Derivative.Linearity
import ExactAlgebra.Proofs.Derivative.Value
import ExactAlgebra.Proofs.EndingLoop
import ExactAlgebra.Proofs.Evaluation.Basic
import ExactAlgebra.Proofs.Evaluation.IntegerPower
import ExactAlgebra.Proofs.Evaluation.StrictFold
import ExactAlgebra.Proofs.Expand.Arithmetic
import ExactAlgebra.Proofs.Expand.KeptProperties
import ExactAlgebra.Proofs.Expand.SumOfProducts
import ExactAlgebra.Proofs.Expand.TermCount
import ExactAlgebra.Proofs.Expand.Value
import ExactAlgebra.Proofs.FailingMap
import ExactAlgebra.Proofs.Fraction.FieldOperations
import ExactAlgebra.Proofs.Fraction.IntegerPower
import ExactAlgebra.Proofs.Fraction.Rational
import ExactAlgebra.Proofs.Fraction.RationalPower
import ExactAlgebra.Proofs.Fraction.Reading
import ExactAlgebra.Proofs.Fraction.RealPower
import ExactAlgebra.Proofs.Fraction.Text
import ExactAlgebra.Proofs.Guarded.Power
import ExactAlgebra.Proofs.Guarded.Reading
import ExactAlgebra.Proofs.Guarded.Session
import ExactAlgebra.Proofs.Guarded.Stages
import ExactAlgebra.Proofs.Guarded.Uninterrupted
import ExactAlgebra.Proofs.Input.Compilation
import ExactAlgebra.Proofs.Input.Leaf
import ExactAlgebra.Proofs.Input.PrefixTerm
import ExactAlgebra.Proofs.Input.Refusal
import ExactAlgebra.Proofs.Input.StackMachine
import ExactAlgebra.Proofs.Integer.BinaryGcd
import ExactAlgebra.Proofs.Integer.PerfectRoot
import ExactAlgebra.Proofs.Integer.Primitives
import ExactAlgebra.Proofs.Integer.Root
import ExactAlgebra.Proofs.OperandMultiset
import ExactAlgebra.Proofs.OrderNumber
import ExactAlgebra.Proofs.Polynomial.CanonicalForm
import ExactAlgebra.Proofs.Polynomial.Expanded
import ExactAlgebra.Proofs.Polynomial.Monomial
import ExactAlgebra.Proofs.Polynomial.Product
import ExactAlgebra.Proofs.RealValue.Basic
import ExactAlgebra.Proofs.RealValue.Collecting
import ExactAlgebra.Proofs.RealValue.Rewriting
import ExactAlgebra.Proofs.Renaming.Basic
import ExactAlgebra.Proofs.Renaming.Derivative
import ExactAlgebra.Proofs.Renaming.Simplification
import ExactAlgebra.Proofs.Session.FailingLine
import ExactAlgebra.Proofs.Session.PassNames
import ExactAlgebra.Proofs.Simplify.Arithmetic
import ExactAlgebra.Proofs.Simplify.Calls
import ExactAlgebra.Proofs.Simplify.CollectAgain
import ExactAlgebra.Proofs.Simplify.Collected
import ExactAlgebra.Proofs.Simplify.Exponents
import ExactAlgebra.Proofs.Simplify.Factors
import ExactAlgebra.Proofs.Simplify.Failure
import ExactAlgebra.Proofs.Simplify.FixedPoint
import ExactAlgebra.Proofs.Simplify.FlatProducts
import ExactAlgebra.Proofs.Simplify.Idempotence
import ExactAlgebra.Proofs.Simplify.Nesting
import ExactAlgebra.Proofs.Simplify.Parts
import ExactAlgebra.Proofs.Simplify.Regular
import ExactAlgebra.Proofs.Simplify.Settled
import ExactAlgebra.Proofs.Simplify.Terms
import ExactAlgebra.Proofs.Simplify.Value
import ExactAlgebra.Proofs.Tally
import ExactAlgebra.Proofs.Text.Drawing
import ExactAlgebra.Proofs.Text.FirstCharacter
import ExactAlgebra.Proofs.Text.LinearForm
import ExactAlgebra.Proofs.Text.Pieces
import ExactAlgebra.Proofs.WellFormed.Agreement
import ExactAlgebra.Proofs.WellFormed.Checked
import ExactAlgebra.Proofs.WellFormed.Reading
import ExactAlgebra.Proofs.WellFormed.Rewriting
import ExactAlgebra.Proofs.Workbench.Building
import ExactAlgebra.Proofs.Workbench.Rewriting
import ExactAlgebra.Rewrite.Cases
import ExactAlgebra.Rewrite.Derivative
import ExactAlgebra.Rewrite.Error
import ExactAlgebra.Rewrite.Expand
import ExactAlgebra.Rewrite.Repetition
import ExactAlgebra.Rewrite.Simplify
import ExactAlgebra.Rewrite.Tally
import ExactAlgebra.Rewrite.Weight
import ExactAlgebra.Session.Basic
import ExactAlgebra.Session.Breakdown
import ExactAlgebra.Session.Choice
import ExactAlgebra.Session.Command
import ExactAlgebra.Session.Completion
import ExactAlgebra.Sorting
import ExactAlgebra.Sorting.Gallop
import ExactAlgebra.Sorting.Merging
import ExactAlgebra.Sorting.Runs
import ExactAlgebra.Symbol
import ExactAlgebra.Text.Blank
import ExactAlgebra.Text.CasedLetter
import ExactAlgebra.Text.DecimalDigit
import ExactAlgebra.Text.Integer
import ExactAlgebra.Text.Line
import ExactAlgebra.Text.Lowercase
import ExactAlgebra.Text.Printable
import ExactAlgebra.Text.Quoted
import ExactAlgebra.Trace
import ExactAlgebra.Workbench.Basic
import ExactAlgebra.Workbench.Comparison
import ExactAlgebra.Workbench.Construct
import ExactAlgebra.Workbench.Fault
import ExactAlgebra.Workbench.Feature
import ExactAlgebra.Workbench.Node
import ExactAlgebra.Workbench.Node.Build
import ExactAlgebra.Workbench.Node.Derivative
import ExactAlgebra.Workbench.Node.Expand
import ExactAlgebra.Workbench.Node.Simplify
import ExactAlgebra.Workbench.Numeral
import ExactAlgebra.Workbench.Operation.Arithmetic
import ExactAlgebra.Workbench.Operation.Expression
import ExactAlgebra.Workbench.Operation.General
import ExactAlgebra.Workbench.Operation.Passes
import ExactAlgebra.Workbench.Operator
import ExactAlgebra.Workbench.Plain
import ExactAlgebra.Workbench.ProgramStep
import ExactAlgebra.Workbench.Value
