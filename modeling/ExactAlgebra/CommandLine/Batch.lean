import ExactAlgebra.CommandLine.Path
import ExactAlgebra.Session.Command
import ExactAlgebra.Text.Line

/-!
# Batches

A session can be run on a script, on a batch of lines, or at a terminal. Each run
is a list of events in the order in which they happen, and an exit code.

Which stream a reply goes to is decided by its text: what starts with the word
for an error is written to the error stream.
-/

namespace ExactAlgebra
namespace CommandLine

/-- Something that a run writes. -/
inductive Event
  /-- Text on the output stream. -/
  | output (text : String)
  /-- A line on the error stream. -/
  | problem (line : String)
  /-- A record for the log. -/
  | log (record : LogRecord)

/-- What a run wrote, and whether a part of it failed. -/
structure Run where
  events : List Event
  failed : Bool

namespace Run

/-- The exit code of a run. -/
def exitCode (run : Run) : Nat :=
  if run.failed then 1 else 0

/-- A run followed by another one. -/
def append (first second : Run) : Run where
  events := first.events ++ second.events
  failed := first.failed || second.failed

/-- The run that does nothing. -/
def nothing : Run := { events := [], failed := false }

end Run

/-- A shown text reports an error. -/
def isError (text : String) : Bool :=
  Text.startsWith "Error" text

/-- Show a text on the stream that its beginning chooses. An empty text is not
shown. -/
def emit (text : String) : List Event :=
  if text = "" then []
  else if isError text then [.problem text]
  else [.output (text ++ "\n")]

/-- Show a reply. -/
def emitReply (reply : Reply) : List Event :=
  match reply.text? with
  | some text => emit text
  | none => []

/-- A reply whose text reports an error. -/
def reportsError (reply : Reply) : Bool :=
  match reply.text? with
  | some text => isError text
  | none => false

/-- A record of the command line itself. -/
def note (text : String) : Event :=
  .log { source := .commandLine, text := text }

/-- Process lines of Polish notation one by one and show every reply. -/
def runReplies (session : Session) : List String → Run
  | [] => .nothing
  | line :: lines =>
      let response := session.process line
      let here : Run :=
        { events := response.log.map .log ++ emitReply response.reply
          failed := reportsError response.reply }
      here.append (runReplies response.session lines)

/-- Process the lines of one straight-line program. Definitions are not shown,
and neither are commands unless they report an error. -/
def runDefinitions (session : Session) : List String → Session × Run
  | [] => (session, .nothing)
  | line :: lines =>
      let (after, here) : Session × Run :=
        match Session.classify line with
        | .ignored => (session, .nothing)
        | .command command =>
            let (after, reply) := session.execute command
            if reportsError reply then (after, { events := emitReply reply, failed := true })
            else (after, .nothing)
        | .expression text =>
            match session.program.readLine text with
            | .ok expr =>
                let record := LogRecord.defined session.program.size expr
                ({ session with program := session.program.append expr },
                  { events := [.log record], failed := false })
            | .error cause =>
                (session, { events := emit ("Error: " ++ cause.message), failed := true })
      let (final, others) := runDefinitions after lines
      (final, here.append others)

/-- Rewrite the last expression of a program and show it. -/
def showLast (session : Session) : Run :=
  match session.program.last? with
  | none => .nothing
  | some expr =>
      match session.evaluate expr with
      | (.ok text, log) => { events := log.map .log ++ emit text, failed := false }
      | (.error cause, log) =>
          { events := log.map .log ++ emit ("Error: " ++ cause.message), failed := true }

/-- Run a batch of lines. In Polish notation every line is shown; a program shows
its last expression only. -/
def runLines (session : Session) (lines : List String) : Run :=
  match session.format with
  | .polish => runReplies session lines
  | .program =>
      let (final, run) := runDefinitions session lines
      run.append (showLast final)

/-- The lines of the input stream. -/
def inputLines (text : String) : List String :=
  Text.splitAtChar '\n' (Text.withLineFeeds text)

/-- A command that the session does not know. -/
def isUnknownCommand (line : String) (reply : Reply) : Bool :=
  Text.startsWith ":" line && (reply.text?.any fun text => Text.startsWith "Unknown" text)

/-- Show the reply to a line of a script, or report a problem with its place.
Commands that succeed are not shown. -/
def scriptRun (path : String) (number : Nat) (session : Session) (line : String)
    (reply : Reply) : Run :=
  match reply.text? with
  | none => .nothing
  | some text =>
      if isError text || isUnknownCommand line reply then
        { events := [.problem (path ++ ":" ++ toString number ++ ": " ++ text)]
          failed := true }
      else if text = "" || Text.startsWith ":" line || session.quiet then .nothing
      else { events := [.output (text ++ "\n")], failed := false }

/-- Run the lines of a script, counted from `number` on, until one of them ends
the session. A line that fails does not stop the script. -/
def runScriptLines (path : String) (number : Nat) (session : Session) : List String → Run
  | [] => .nothing
  | line :: lines =>
      let response := session.process line
      let shown := scriptRun path number session (Text.strip line) response.reply
      let here : Run := { shown with events := response.log.map .log ++ shown.events }
      if response.session.running then
        here.append (runScriptLines path (number + 1) response.session lines)
      else here

/-- The report of a script that cannot be read. -/
def unreadable (path : String) (cause : FileError) : Run where
  events := [.problem ("Error reading " ++ path ++ ": " ++ cause.message path)]
  failed := true

/-- The lines of a script. -/
def scriptLines (text : String) : List String :=
  Text.lines (Text.withLineFeeds text)

/-- The record before the first line of a script. -/
def scriptNote (path : String) (lines : List String) : Event :=
  note ("Running script " ++ path ++ " (" ++ toString lines.length ++ " lines)")

end CommandLine
end ExactAlgebra
