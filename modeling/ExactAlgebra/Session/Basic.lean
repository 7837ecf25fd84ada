import ExactAlgebra.Expr.Drawing
import ExactAlgebra.Input.Polish
import ExactAlgebra.Input.Program
import ExactAlgebra.Pass.Spec
import ExactAlgebra.Pipeline

/-!
# Sessions

A session reads lines, rewrites the expressions on them with its passes and
writes the results. It keeps the chosen input format and renderer, the passes,
and the straight-line program defined so far.

What a line leads to is a reply. Replies say whether the line failed and why; the
text that is shown for them is a separate matter.
-/

namespace ExactAlgebra

/-- The ways to write a result. -/
inductive Renderer
  | linear
  | tree
  deriving DecidableEq

namespace Renderer

/-- The name by which a renderer is chosen. -/
def name : Renderer → String
  | linear => "linear"
  | tree => "tree"

/-- All renderers, in the order in which they are offered. -/
def all : List Renderer := [linear, tree]

/-- The renderer with the given name. -/
def ofName? (name : String) : Option Renderer :=
  all.find? (·.name = name)

@[simp] theorem ofName?_name (renderer : Renderer) :
    ofName? renderer.name = some renderer := by
  cases renderer <;> decide +kernel

/-- Write an expression, without a line feed at the end. -/
def render : Renderer → Expr → String
  | linear, expr => expr.linear
  | tree, expr => Text.stripEnd (· = '\n') expr.drawing

end Renderer

/-- Where a log record comes from. -/
inductive LogSource
  | commandLine
  | input
  | pipeline
  deriving DecidableEq

namespace LogSource

/-- The name of a source in the log. -/
def name : LogSource → String
  | commandLine => "radix.cli"
  | input => "radix.parse"
  | pipeline => "radix.pipeline"

end LogSource

/-- A record of what happened, for those who want to know. -/
structure LogRecord where
  source : LogSource
  text : String

namespace LogRecord

/-- The line of a record in the log. -/
def line (record : LogRecord) : String :=
  "DEBUG " ++ record.source.name ++ ": " ++ record.text

/-- A line of a program was accepted. -/
def defined (index : Nat) (expr : Expr) : LogRecord :=
  { source := .input
    text := "Defined expression " ++ toString index ++ ": " ++ expr.linear }

/-- A pass was applied. -/
def applied (step : Step Expr) : LogRecord :=
  { source := .pipeline
    text :=
      "Pass " ++ toString step.index ++ " (" ++ step.name ++ "): " ++ step.before.linear ++
        " -> " ++ step.after.linear }

end LogRecord

/-- Why a line of a session failed. -/
inductive LineError
  | read (cause : ReadError)
  | rewrite (cause : RewriteError)
  | passName (cause : PassNameError)
  deriving DecidableEq

namespace LineError

/-- The wording of a failure. -/
def message : LineError → String
  | read cause => cause.message
  | rewrite cause => cause.message
  | passName cause => cause.message

end LineError

/-- What a line leads to. -/
inductive Reply
  /-- Nothing is shown. -/
  | silent
  /-- A command answered. -/
  | message (text : String)
  /-- An expression was rewritten and written. -/
  | result (text : String)
  /-- The line failed. -/
  | failure (cause : LineError)
  deriving DecidableEq

namespace Reply

/-- The text that is shown for a reply. -/
def text? : Reply → Option String
  | silent => none
  | message text => some text
  | result text => some text
  | failure cause => some ("Error: " ++ cause.message)

/-- The line failed. -/
def isFailure : Reply → Bool
  | failure _ => true
  | _ => false

end Reply

/-- The state of a session. -/
structure Session where
  format : Format
  renderer : Renderer
  pipeline : Pipeline
  program : Input.Program
  tracing : Bool
  quiet : Bool
  running : Bool
  /-- Number of lines that failed. -/
  errors : Nat

namespace Session

/-- A new session. -/
def start (format : Format) (renderer : Renderer) : Session where
  format := format
  renderer := renderer
  pipeline := []
  program := .empty
  tracing := false
  quiet := false
  running := true
  errors := 0

/-- Write an expression. -/
def render (session : Session) (expr : Expr) : String :=
  session.renderer.render expr

/-- Count a failed line. -/
def countError (session : Session) : Session :=
  { session with errors := session.errors + 1 }

/-- Add passes at the end of the pipeline. Nothing is added when one of the names
is refused. -/
def addPasses (session : Session) (names : List String) : Except PassNameError Session := do
  let passes ← names.mapM Pass.read
  return { session with pipeline := session.pipeline ++ passes }

/-- The text of a rewritten expression, with a trace if one is wanted. -/
def resultText (session : Session) (initial : Expr) (steps : List (Step Expr))
    (final : Expr) : String :=
  let trace : Trace Expr := { initial := initial, steps := steps, final := final }
  if session.tracing && !steps.isEmpty && !session.quiet then
    session.render final ++ "\n" ++ trace.chain Expr.linear
  else session.render final

/-- Rewrite an expression and write the result. The log tells every completed
pass. -/
def evaluate (session : Session) (expr : Expr) :
    Except RewriteError String × List LogRecord :=
  let run := session.pipeline.run expr
  (run.outcome.map fun final => session.resultText expr run.steps final,
    run.steps.map .applied)

/-- What a line did: the session after it, the reply, and the log. -/
structure Response where
  session : Session
  reply : Reply
  log : List LogRecord

/-- A failed line. -/
def fail (session : Session) (cause : LineError) (log : List LogRecord) : Response where
  session := session.countError
  reply := .failure cause
  log := log

/-- A line with an expression in Polish notation. -/
def processPolish (session : Session) (line : String) : Response :=
  match Input.Polish.parse line with
  | .error cause => session.fail (.read cause) []
  | .ok expr =>
      match session.evaluate expr with
      | (.error cause, log) => session.fail (.rewrite cause) log
      | (.ok text, log) => { session := session, reply := .result text, log := log }

/-- A line of a straight-line program. Its expression is defined before it is
rewritten, and shown with its number. -/
def processProgram (session : Session) (line : String) : Response :=
  match session.program.readLine line with
  | .error cause => session.fail (.read cause) []
  | .ok expr =>
      let index := session.program.size
      let extended := { session with program := session.program.append expr }
      let record := LogRecord.defined index expr
      match extended.evaluate expr with
      | (.error cause, log) => extended.fail (.rewrite cause) (record :: log)
      | (.ok text, log) =>
          let separator := if session.renderer = .tree then "\n" else " "
          { session := extended
            reply := .result ("[" ++ toString index ++ "]" ++ separator ++ text)
            log := record :: log }

end Session
end ExactAlgebra
