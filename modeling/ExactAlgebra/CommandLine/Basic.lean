import ExactAlgebra.CommandLine.Options
import ExactAlgebra.CommandLine.Terminal

/-!
# The command

A command line is turned into a plan first: to stop with a message, or to run a
session on a script, an expression, the input stream or a terminal. A script wins
over an expression, and both win over the input.

Carrying out a plan needs the contents of the script or of the input, and gives
the ending and what is written to the two streams.
-/

namespace ExactAlgebra
namespace CommandLine

/-- The summary of all options. -/
def usage : String :=
  "usage: radix [-h] [-e EXPR] [-f \x7bpolish,program\x7d] [-o \x7blinear,tree\x7d] [-t PASS]\n" ++
  "             [--trace] [-v] [-q] [--version]\n" ++
  "             [script]\n"

/-- The description of the command and its options. -/
def help : String :=
  usage ++
  "\n" ++
  "RADIX - Rational Algebra: Differentiation, Identities and eXpansion\n" ++
  "\n" ++
  "positional arguments:\n" ++
  "  script                Script file to run (.radix)\n" ++
  "\n" ++
  "options:\n" ++
  "  -h, --help            show this help message and exit\n" ++
  "  -e EXPR, --expr EXPR  Evaluate a single expression\n" ++
  "  -f \x7bpolish,program\x7d, --format \x7bpolish,program\x7d\n" ++
  "                        Input format\n" ++
  "  -o \x7blinear,tree\x7d, --output \x7blinear,tree\x7d\n" ++
  "                        Output renderer\n" ++
  "  -t PASS, --transform PASS\n" ++
  "                        Apply a pass: simplify, expand, differentiate:VAR (can\n" ++
  "                        be specified multiple times)\n" ++
  "  --trace               Show the expression after every pass\n" ++
  "  -v, --verbose         Log debugging information to stderr\n" ++
  "  -q, --quiet           Quiet mode (suppress non-essential output)\n" ++
  "  --version             show program's version number and exit\n" ++
  "\n" ++
  "Examples:\n" ++
  "  radix                                  Start REPL\n" ++
  "  radix script.radix                     Run script\n" ++
  "  radix -e '* x x' -t simplify           Evaluate expression\n" ++
  "  radix -f program -e '. x; . 2; ^ 0 1'  Evaluate a program\n" ++
  "  echo '^ x 3' | radix -t d:x -t simplify  Filter mode\n"

/-- The version of the command. -/
def version : String := "radix 0.1.0\n"

/-- What a run of the command gives. -/
structure Report where
  ending : Ending
  output : String
  problems : String

namespace Report

/-- The text of an event on the output stream. -/
def outputText : Event → String
  | .output text => text
  | _ => ""

/-- The text of an event on the error stream; the log is for verbose runs. -/
def problemText (verbose : Bool) : Event → String
  | .problem line => line ++ "\n"
  | .log record => if verbose then record.line ++ "\n" else ""
  | .output _ => ""

/-- What a run writes to the two streams. -/
def ofFinish (verbose : Bool) (finish : Finish) : Report where
  ending := finish.ending
  output := String.join (finish.events.map outputText)
  problems := String.join (finish.events.map (problemText verbose))

/-- The report of a command line that is not followed. -/
def ofStop : Stop → Report
  | .help => { ending := .exit 0, output := help, problems := "" }
  | .version => { ending := .exit 0, output := version, problems := "" }
  | .usage cause =>
      { ending := .exit 2
        output := ""
        problems := usage ++ "radix: error: " ++ cause.message ++ "\n" }

end Report

/-- What to run a session on. -/
inductive Mode
  | script (path : String)
  | expression (text : Setting String)
  | input

namespace Mode

/-- The mode that the settings ask for. A script without a name is none. -/
def ofSettings (settings : Settings) : Mode :=
  match settings.script, settings.expr with
  | none, none => input
  | none, some text => expression text
  | some path, expr? =>
      if path ≠ "" then script path
      else
        match expr? with
        | some text => expression text
        | none => input

end Mode

/-- What a command line asks for. -/
inductive Plan
  | stop (report : Report)
  | run (verbose : Bool) (desk : Desk) (mode : Mode)

/-- Why the passes on a command line cannot be used. -/
inductive PassProblem
  | name (cause : PassNameError)
  /-- The name of a pass was left vacant. -/
  | vacant

/-- Read the passes on a command line, in order. -/
def readPasses : List (Setting String) → Except PassProblem Pipeline
  | [] => .ok []
  | .vacant :: _ => .error .vacant
  | .chosen text :: others => do
      let pass ← (Pass.read text).mapError .name
      return pass :: (← readPasses others)

/-- The desk that the settings ask for. -/
def openDesk (settings : Settings) : Except PassProblem Desk := do
  let pipeline ← readPasses settings.transforms
  let session := Session.start (settings.format.getD .polish) (settings.renderer.getD .linear)
  return {
    session :=
      { session with
        tracing := settings.trace, quiet := settings.quiet, pipeline := pipeline }
    undecided := settings.format = .vacant
    unrendered := settings.renderer = .vacant }

/-- The report of passes that cannot be used. -/
def PassProblem.report : PassProblem → Report
  | .name cause =>
      { ending := .exit 1, output := "", problems := "Error: " ++ cause.message ++ "\n" }
  | .vacant => { ending := .breakdown (.vacantText "strip"), output := "", problems := "" }

/-- Plan what a command line asks for. -/
def plan (arguments : List String) : Plan :=
  match readArguments arguments with
  | .error stop => .stop (.ofStop stop)
  | .ok settings =>
      match openDesk settings with
      | .error problem => .stop problem.report
      | .ok desk => .run settings.verbose desk (.ofSettings settings)

/-- What stands at the input of the command. -/
inductive Source
  /-- A stream with the given text. -/
  | stream (text : String)
  /-- A terminal at which the user acts. -/
  | terminal (typed : List Typed)

/-- The record that names the mode. -/
def modeNote (mode : Mode) (source : Source) : Event :=
  match mode, source with
  | .script path, _ => note ("Script mode: " ++ path)
  | .expression _, _ => note "Expression mode"
  | .input, .stream _ => note "Filter mode"
  | .input, .terminal _ => note "REPL mode"

/-- Run a script. -/
def runScript (desk : Desk) (path : String) (contents : Except FileError String) : Finish :=
  match contents with
  | .error cause => .ofRun (unreadable path cause)
  | .ok text =>
      let lines := scriptLines text
      let run := runScriptLines path 1 desk.session
      Finish.after [scriptNote path lines] <|
        runUnbroken true desk.session
          (if desk.unrendered then runUnrendered true desk.session run else (.ofRun <| run ·))
          lines

/-- Run a batch of lines. Without a chosen format they are taken for a program. -/
def runBatch (desk : Desk) (lines : List String) : Finish :=
  let session :=
    if desk.undecided then { desk.session with format := .program } else desk.session
  if session.format = .polish then
    runUnbroken false session
      (if desk.unrendered then runUnrendered false session (runReplies session)
        else (.ofRun <| runLines session ·))
      lines
  else if desk.unrendered then runProgramUnrendered session lines
  else runProgram session lines

/-- The format of the lines of an expression is a program by choice. -/
def Desk.isProgram (desk : Desk) : Bool :=
  !desk.undecided && desk.session.format = .program

/-- Run an expression given on the command line: a program has its lines separated
by semicolons. -/
def runExpression (desk : Desk) : Setting String → Finish
  | .vacant => .broken [] (.vacantText (if desk.isProgram then "split" else "strip"))
  | .chosen text =>
      runBatch desk (if desk.isProgram then Text.splitAtChar ';' text else [text])

/-- Run a session in a mode. -/
def runMode
    (files : String → Except FileError String)
    (source : Source)
    (desk : Desk)
    (mode : Mode) : Finish :=
  match mode, source with
  | .script path, _ =>
      if path.toList.contains '\x00' then .broken [] .nullInPath
      else runScript desk (normalizePath path) (files (normalizePath path))
  | .expression text, _ => runExpression desk text
  | .input, .stream text => runBatch desk (inputLines text)
  | .input, .terminal typed => runTerminal desk typed

/-- Run the command on the given files and input. -/
def run
    (files : String → Except FileError String)
    (source : Source)
    (arguments : List String) : Report :=
  match plan arguments with
  | .stop report => report
  | .run verbose desk mode =>
      .ofFinish verbose ((runMode files source desk mode).after [modeNote mode source])

end CommandLine
end ExactAlgebra
