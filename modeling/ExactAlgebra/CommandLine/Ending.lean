import ExactAlgebra.CommandLine.Batch
import ExactAlgebra.Session.Breakdown
import ExactAlgebra.Session.Choice

/-!
# How runs end

A run ends with an exit code. It can also break down: when a setting was left
vacant and its value is needed, when the path of the script holds a null character, or
when a power cannot be unrolled. What was written up to that point stays written.
-/

namespace ExactAlgebra
namespace CommandLine

/-- Why a run breaks down. -/
inductive Breakdown
  /-- A vacant text has no such feature. -/
  | vacantText (feature : String)
  /-- An expression has to be written, and the renderer was left vacant. -/
  | vacantRenderer
  /-- An expression has to be written, and there is no renderer of that name. -/
  | unknownRenderer (name : String)
  | nullInPath
  /-- A power cannot be unrolled. -/
  | repetition (cause : RepetitionError)
  deriving DecidableEq

namespace Breakdown

/-- The wording of a breakdown. -/
def message : Breakdown → String
  | vacantText feature => "'list' object has no attribute '" ++ feature ++ "'"
  | vacantRenderer => "unhashable type: 'list'"
  | unknownRenderer name => Text.quoted name
  | nullInPath => "embedded null byte"
  | repetition cause => cause.message

end Breakdown

/-- How a run ends. -/
inductive Ending
  | exit (code : Nat)
  | breakdown (cause : Breakdown)
  deriving DecidableEq

/-- What a run wrote, and how it ended. -/
structure Finish where
  events : List Event
  ending : Ending

namespace Finish

/-- A run that came to its end. -/
def ofRun (run : Run) : Finish :=
  { events := run.events, ending := .exit run.exitCode }

/-- A run that broke down after the given events. -/
def broken (events : List Event) (cause : Breakdown) : Finish :=
  { events := events, ending := .breakdown cause }

/-- More events before those of a run. -/
def after (events : List Event) (finish : Finish) : Finish :=
  { finish with events := events ++ finish.events }

/-- A run after which the session breaks down, unless the run broke down itself. -/
def thenBroken (finish : Finish) (found : Session.Breakdown) : Finish :=
  match finish.ending with
  | .exit _ => .broken (finish.events ++ found.log.map .log) (.repetition found.cause)
  | .breakdown _ => finish

end Finish

/-- Run lines that are answered one by one, up to the first one that the session breaks
down on. -/
def runUnbroken (ends : Bool) (session : Session) (run : List String → Finish)
    (lines : List String) : Finish :=
  match session.firstBreakdown? ends lines with
  | none => run lines
  | some (count, found) => (run (lines.take count)).thenBroken found

/-- Run lines that are answered one by one, without a renderer: as usual when
nothing has to be written before a renderer is chosen, and otherwise up to the
first line that has to write. -/
def runUnrendered (ends : Bool) (session : Session) (run : List String → Run)
    (lines : List String) : Finish :=
  match session.firstUnwritten ends lines with
  | none => .ofRun (run lines)
  | some (count, log) =>
      .broken ((run (lines.take count)).events ++ log.map .log) .vacantRenderer

/-- The number of lines of a program before the first one that has to write an
expression while no renderer is chosen. -/
def firstUnwrittenDefinition (session : Session) : List String → Option Nat
  | [] => none
  | line :: lines =>
      if Session.choosesRenderer line then none
      else if session.writesLast line then some 0
      else
        (firstUnwrittenDefinition (runDefinitions session [line]).1 lines).map (· + 1)

/-- Show the last expression of a program, for which there is no renderer. -/
def showLastUnrendered (session : Session) : Finish :=
  match session.program.last? with
  | none => .ofRun .nothing
  | some expr =>
      match session.evaluate expr with
      | (.ok _, log) => .broken (log.map .log) .vacantRenderer
      | (.error _, _) => .ofRun (showLast session)

/-- Why rewriting the last expression of a program breaks the session down, if it
does. -/
def lastBreakdown? (session : Session) : Option Session.Breakdown :=
  session.program.last?.bind session.evaluationBreakdown?

/-- Run the lines of a program and show its last expression. -/
def runProgram (session : Session) (lines : List String) : Finish :=
  let (final, run) := runDefinitions session lines
  match lastBreakdown? final with
  | some found => (Finish.ofRun run).thenBroken found
  | none => .ofRun (run.append (showLast final))

/-- Run the lines of a program without a renderer. -/
def runProgramUnrendered (session : Session) (lines : List String) : Finish :=
  match firstUnwrittenDefinition session lines with
  | some count => .broken (runDefinitions session (lines.take count)).2.events .vacantRenderer
  | none =>
      let (final, run) := runDefinitions session lines
      if (lastBreakdown? final).isSome || lines.any Session.choosesRenderer then
        runProgram session lines
      else
        match showLastUnrendered final with
        | { events, ending := .breakdown cause } => .broken (run.events ++ events) cause
        | _ => .ofRun (run.append (showLast final))

end CommandLine
end ExactAlgebra
