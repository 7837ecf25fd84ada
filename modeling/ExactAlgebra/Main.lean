import ExactAlgebra.CommandLine.Basic

/-!
# The executable

The outer layer of the command: it reads the arguments, the script or the input,
and writes what the run asks for. Everything it decides is decided elsewhere.
-/

namespace ExactAlgebra
namespace CommandLine

/-- Read the file at a path. -/
def readFile (path : String) : IO (Except FileError String) := do
  try
    return .ok (← IO.FS.readFile path)
  catch
    | .noFileOrDirectory .. => return .error .missing
    | .inappropriateType _ code _ => return .error (if code = 20 then .notDirectory else .directory)
    | .permissionDenied .. => return .error .denied
    | .invalidArgument .. => return .error .nameTooLong
    | problem => throw problem

/-- Write an event to its stream. -/
def writeEvent (verbose : Bool) (event : Event) : IO Unit := do
  let output ← IO.getStdout
  let problems ← IO.getStderr
  output.putStr (Report.outputText event)
  output.flush
  problems.putStr (Report.problemText verbose event)
  problems.flush

/-- Tell how a run ended. A breakdown is a failure. -/
def conclude : Ending → IO UInt32
  | .exit code => return code.toUInt32
  | .breakdown cause => do
      (← IO.getStderr).putStr (cause.message ++ "\n")
      return 1

/-- Write a report to the two streams. -/
def writeReport (report : Report) : IO UInt32 := do
  (← IO.getStdout).putStr report.output
  (← IO.getStderr).putStr report.problems
  conclude report.ending

/-- Write the events of a run. -/
def writeFinish (verbose : Bool) (finish : Finish) : IO UInt32 := do
  finish.events.forM (writeEvent verbose)
  conclude finish.ending

/-- Read everything up to the end of a stream. -/
partial def readAll (stream : IO.FS.Stream) (text : String) : IO String := do
  let line ← stream.getLine
  if line.isEmpty then return text else readAll stream (text ++ line)

/-- Talk to the user until the session or the input ends. -/
partial def talk (verbose : Bool) (desk : Desk) : IO UInt32 := do
  if !desk.session.running then return ← conclude (leave desk.session)
  writeEvent verbose (.output desk.prompt)
  let line ← (← IO.getStdin).getLine
  if line.isEmpty then
    writeEvent verbose (.output "\n")
    conclude (leave desk.session)
  else
    let (events, next) := respond desk (.line line)
    events.forM (writeEvent verbose)
    match next with
    | .ok next => talk verbose next
    | .error cause => conclude (.breakdown cause)

/-- Run a session in a mode, with the contents of files and input as they are. -/
def perform (verbose : Bool) (desk : Desk) (mode : Mode) : IO UInt32 := do
  let start (source : Source) := writeEvent verbose (modeNote mode source)
  match mode with
  | .script path =>
      start (.stream "")
      let contents ← readFile (normalizePath path)
      writeFinish verbose (runMode (fun _ => contents) (.stream "") desk mode)
  | .expression text =>
      start (.stream "")
      writeFinish verbose (runExpression desk text)
  | .input =>
      let input ← IO.getStdin
      if ← input.isTty then
        start (.terminal [])
        (opening desk.session).forM (writeEvent verbose)
        talk verbose desk
      else
        start (.stream "")
        writeFinish verbose (runBatch desk (inputLines (← readAll input "")))

end CommandLine
end ExactAlgebra

/-- Run the command. -/
def main (arguments : List String) : IO UInt32 :=
  match ExactAlgebra.CommandLine.plan arguments with
  | .stop report => ExactAlgebra.CommandLine.writeReport report
  | .run verbose desk mode => ExactAlgebra.CommandLine.perform verbose desk mode
