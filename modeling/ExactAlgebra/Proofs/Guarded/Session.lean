import ExactAlgebra.Proofs.Guarded.Reading
import ExactAlgebra.Session.Command

/-!
# Guarded sessions

A guarded session takes for granted only that digits, depth and memory do not run out, as
everything else does here (`ExactAlgebra.Rewrite.Repetition` names these limits). It keeps
its format and its renderer as names and looks the renderer up whenever it writes, its
stages may be of any kind, and whatever the guarded readers, stages and printers refuse
interrupts the line. Only some interruptions are answered with a message: errors of the
library on a line with an expression, and refused values on a line that adds passes. These
lines fail. Any other interruption ends the session.

The lines that fail are counted, and nothing else is: the work on a line never changes
the count, so that after any number of lines it has grown by the number of failures.
-/

namespace ExactAlgebra
namespace Guarded

open ExactAlgebra.Expr ExactAlgebra.Workbench ExactAlgebra.Input

/-! ## Interruptions -/

/-- What interrupts the work on a line. -/
inductive Interruption
  | fault (cause : Fault)
  /-- There is no renderer of that name. -/
  | noRenderer (name : String)

/-- The fault is an error that the library explains itself. -/
def isLibraryError : Fault → Bool
  | .arithmetic _ => true
  | .rewrite _ => true
  | .indeterminate _ => true
  | .exponent _ => true
  | .read _ => true
  | .fractionText (.arithmetic _) => true
  | .passName (.invalidVariable _) => true
  | .malformed _ => true
  | _ => false

/-- The fault refuses a value of the right kind. -/
def isValueError : Fault → Bool
  | .exponent .notRational => true
  | .read (.refused _ _) => true
  | .fractionText (.invalid _) => true
  | .passName _ => true
  | .root _ => true
  | .negativeExponent => true
  | .negativeShift => true
  | .integerText _ => true
  | .undefinedInteger => true
  | .malformed _ => true
  | _ => false

/-- The fault refuses a position. -/
def isPositionError : Fault → Bool
  | .noLine => true
  | .outOfRange => true
  | .position => true
  | _ => false

namespace Interruption

/-- The wording of an interruption. -/
def message : Interruption → String
  | fault cause => cause.message?.getD ""
  | noRenderer name => Text.quoted name

/-- The session answers the interruption of such a line with a message. -/
def isReported (line : Session.Line) : Interruption → Bool
  | fault cause =>
      match line with
      | .expression _ => isLibraryError cause
      | .command (.transform _) => isValueError cause
      | _ => false
  | noRenderer _ => false

end Interruption

/-- A failed line, as the fault that it failed with. -/
def lineFault : LineError → Fault
  | .read cause => readFault cause
  | .rewrite cause => .rewrite cause
  | .passName cause => .passName cause

theorem message?_lineFault (cause : LineError) :
    (lineFault cause).message? = some cause.message := by
  cases cause with
  | read cause => cases cause <;> rfl
  | rewrite cause => rfl
  | passName cause => rfl

/-! ## States -/

/-- The state of a session that knows its format and its renderer by their names only. -/
structure State where
  format : String
  output : String
  stages : List Stage
  expressions : List Expr
  tracing : Bool
  quiet : Bool
  running : Bool
  /-- Number of lines that failed. -/
  errors : Nat

/-- Write an expression, without a line feed at the end. -/
def write : Renderer → Expr → Outcome String
  | .linear, expr => .ok expr.linear
  | .tree, expr => do return Text.stripEnd (· = '\n') (← draw "" "" expr)

namespace State

/-- A new session. -/
def start (format output : String) : State where
  format := format
  output := output
  stages := []
  expressions := []
  tracing := false
  quiet := false
  running := true
  errors := 0

/-- The state of a plain session. -/
def ofSession (session : Session) : State where
  format := session.format.name
  output := session.renderer.name
  stages := session.pipeline.map .pass
  expressions := session.program.expressions
  tracing := session.tracing
  quiet := session.quiet
  running := session.running
  errors := session.errors

/-- Count a failed line. -/
def countError (state : State) : State :=
  { state with errors := state.errors + 1 }

/-- Write an expression with the renderer of the chosen name. -/
def render (state : State) (expr : Expr) : Except Interruption String :=
  match Renderer.ofName? state.output with
  | none => .error (.noRenderer state.output)
  | some renderer => (write renderer expr).mapError .fault

/-- Rewrite an expression and write the result. -/
def evaluate (state : State) (expr : Expr) : Except Interruption String := do
  let (steps, final) ← (runStages 0 state.stages expr).mapError .fault
  let text ← state.render final
  let trace : Trace Expr := { initial := expr, steps := steps, final := final }
  return if state.tracing && !steps.isEmpty && !state.quiet then
      text ++ "\n" ++ trace.chain Expr.linear
    else text

/-- The expression defined last. -/
def last (state : State) : Outcome Expr :=
  match state.expressions.getLast? with
  | none => .error .noLine
  | some expr => .ok expr

/-! ## Lines -/

/-- What the work on a line comes to: the state after it, and the text that is shown, if
any, or what interrupted the work. -/
abbrev Attempt := State × Except Interruption (Option String)

/-- The work on a line that shows a text. -/
def answer (state : State) (text : String) : Attempt :=
  (state, .ok (some text))

/-- Choose the input format. -/
def setFormat (state : State) (name : String) : Attempt :=
  if Text.lower name ∈ Format.all.map Format.name then
    answer { state with format := Text.lower name } ("Format set to: " ++ Text.lower name)
  else
    state.answer ("Unknown format. Options: " ++ ", ".intercalate (Format.all.map Format.name))

/-- Choose the renderer. -/
def setOutput (state : State) (name : String) : Attempt :=
  if Text.lower name ∈ Renderer.all.map Renderer.name then
    answer { state with output := Text.lower name } ("Output set to: " ++ Text.lower name)
  else
    state.answer ("Unknown output. Options: " ++ ", ".intercalate (Renderer.all.map Renderer.name))

/-- The names of the stages in the order in which they are applied. -/
def stageChain (state : State) : String :=
  " -> ".intercalate (state.stages.map Stage.name)

/-- Add stages by name. -/
def transform (state : State) (names : String) : Attempt :=
  if names = "" then state.answer "Usage: :transform PASS [PASS ...]"
  else
    match (Session.passNames names).mapM buildStage with
    | .error cause => (state, .error (.fault cause))
    | .ok stages =>
        let extended := { state with stages := state.stages ++ stages }
        extended.answer ("Passes: " ++ extended.stageChain)

/-- Turn tracing on, off or over. -/
def setTracing (state : State) (setting : String) : Attempt :=
  let tracing := Session.tracingAfter state.tracing (Text.lower setting)
  answer { state with tracing := tracing }
    ("Tracing " ++ (if tracing then "enabled" else "disabled"))

/-- Write the last expression. A refused position says that there is none. -/
def showLast (state : State) : Except Interruption (Option String) :=
  match state.last.mapError .fault >>= state.render with
  | .ok text => .ok (some text)
  | .error (.fault cause) =>
      if isPositionError cause then .ok (some "No expression defined") else .error (.fault cause)
  | .error interruption => .error interruption

/-- Carry out a command. -/
def execute (state : State) : Command → Attempt
  | .blank => state.answer "Unknown command. Type :help for help."
  | .help => state.answer Command.helpText
  | .quit => ({ state with running := false }, .ok none)
  | .format name => state.setFormat name
  | .output name => state.setOutput name
  | .transform names => state.transform names
  | .passes => state.answer (if state.stages.isEmpty then "No passes" else state.stageChain)
  | .clear => answer { state with stages := [] } "Cleared all passes"
  | .trace setting => state.setTracing setting
  | .reset => answer { state with expressions := [] } "Program cleared"
  | .last => (state, state.showLast)
  | .unknown name => state.answer ("Unknown command: " ++ name ++ ". Type :help for help.")

/-- Rewrite an expression in Polish notation. -/
def attemptPolish (state : State) (text : String) : Attempt :=
  (state, do
    let expr ← (parsePolish text).mapError .fault
    return some (← state.evaluate expr))

/-- Define an expression and rewrite it. It stays defined when it cannot be rewritten. -/
def attemptProgram (state : State) (text : String) : Attempt :=
  match readLine state.expressions text with
  | .error cause => (state, .error (.fault cause))
  | .ok expr =>
      let extended := { state with expressions := state.expressions ++ [expr] }
      (extended, do
        let output ← extended.evaluate expr
        let index := extended.expressions.length - 1
        let separator := if state.output = "tree" then "\n" else " "
        return some ("[" ++ toString index ++ "]" ++ separator ++ output))

/-- Work on a line until it is done or interrupted. -/
def attempt (state : State) (line : String) : Attempt :=
  match Session.classify line with
  | .ignored => (state, .ok none)
  | .command command => state.execute command
  | .expression text =>
      if state.format = "program" then state.attemptProgram text else state.attemptPolish text

/-- The line fails: it is interrupted, and the session reports that. -/
def fails (state : State) (line : String) : Bool :=
  match (state.attempt line).2 with
  | .ok _ => false
  | .error interruption => interruption.isReported (Session.classify line)

/-- Process one line. An interruption that is not reported ends the session. -/
def process (state : State) (line : String) : Except Interruption (State × Option String) :=
  match state.attempt line with
  | (after, .ok text?) => .ok (after, text?)
  | (after, .error interruption) =>
      if interruption.isReported (Session.classify line) then
        .ok (after.countError, some ("Error: " ++ interruption.message))
      else .error interruption

/-- Without a known renderer the first expression would end the session. -/
example : (start "polish" "page").process "x" = .error (.noRenderer "page") := by
  rfl

/-- Process lines one after the other: the state after all of them, and what is shown for
each. -/
def run (state : State) : List String → Except Interruption (State × List (Option String))
  | [] => .ok (state, [])
  | line :: lines => do
      let (next, text?) ← state.process line
      let (final, texts) ← run next lines
      return (final, text? :: texts)

/-- The number of lines that fail, each in the state that the lines before it leave. -/
def failures (state : State) : List String → Nat
  | [] => 0
  | line :: lines =>
      (if state.fails line then 1 else 0) +
        (state.process line).toOption.elim 0 fun (next, _) => failures next lines

/-! ## Counted errors -/

theorem errors_execute (state : State) (command : Command) :
    (state.execute command).1.errors = state.errors := by
  cases command with
  | format name =>
      rw [execute, setFormat]
      split <;> rfl
  | output name =>
      rw [execute, setOutput]
      split <;> rfl
  | transform names =>
      rw [execute, transform]
      split
      · rfl
      · split <;> rfl
  | blank | help | quit | passes | clear | trace setting | reset | last | unknown name => rfl

/-- The work on a line counts no errors. -/
theorem errors_attempt (state : State) (line : String) :
    (state.attempt line).1.errors = state.errors := by
  unfold attempt
  split
  · rfl
  · exact state.errors_execute _
  · split
    · unfold attemptProgram
      split <;> rfl
    · rfl

/-- Processing a line counts an error when the line fails. -/
theorem errors_process
    {state next : State}
    {line : String}
    {text? : Option String}
    (processed : state.process line = .ok (next, text?)) :
    next.errors = state.errors + if state.fails line then 1 else 0 := by
  have kept := state.errors_attempt line
  unfold process at processed
  unfold fails
  split at processed
  · rename_i after text attempted
    rw [attempted] at kept ⊢
    cases processed
    exact kept
  · rename_i after interruption attempted
    rw [attempted] at kept ⊢
    split at processed
    · rename_i reported
      cases processed
      rw [if_pos reported, countError, kept]
    · cases processed

/-- A session counts the lines that fail. -/
theorem errors_run
    {state final : State}
    {lines : List String}
    {texts : List (Option String)}
    (ran : state.run lines = .ok (final, texts)) :
    final.errors = state.errors + state.failures lines := by
  induction lines generalizing state texts with
  | nil =>
      cases ran
      rfl
  | cons line lines hypothesis =>
      rw [run] at ran
      obtain ⟨⟨next, text?⟩, processed, rest⟩ := except_bind_eq_ok ran
      obtain ⟨⟨last, others⟩, ranOthers, equal⟩ := except_bind_eq_ok rest
      cases equal
      rw [hypothesis ranOthers, errors_process processed, failures, processed, Nat.add_assoc]
      rfl

end State
end Guarded
end ExactAlgebra
