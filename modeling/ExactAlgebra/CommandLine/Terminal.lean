import ExactAlgebra.CommandLine.Ending

/-!
# Sessions at a terminal

At a terminal the session shows a prompt, takes a line, and shows its reply, until
a command ends the session or the input does. An interrupt gives up the line that
is being typed.
-/

namespace ExactAlgebra
namespace CommandLine

/-- What the user does at a prompt. -/
inductive Typed
  | line (text : String)
  | interrupt

/-- A session with what is still to be chosen in it. -/
structure Desk where
  session : Session
  /-- No input format is chosen. Lines are read in Polish notation. -/
  undecided : Bool
  /-- No renderer is chosen. -/
  unrendered : Bool

namespace Desk

/-- What is still to be chosen after a line. -/
def advance (desk : Desk) (line : String) (session : Session) : Desk where
  session := session
  undecided := desk.undecided && !Session.choosesFormat line
  unrendered := desk.unrendered && !Session.choosesRenderer line

/-- The prompt: it counts the defined expressions, unless the format is Polish
notation by choice. -/
def prompt (desk : Desk) : String :=
  if !desk.undecided && desk.session.format = .polish then "radix> "
  else "[" ++ toString desk.session.program.size ++ "] "

end Desk

/-- The lines before the first prompt. -/
def banner : String :=
  "RADIX - Rational Algebra: Differentiation, Identities and eXpansion\n" ++
  "Type :help for help, :quit to exit\n\n"

/-- The events before the first prompt. -/
def opening (session : Session) : List Event :=
  if session.quiet then [] else [.output banner]

/-- What happens after the prompt when the user acts, or why nothing more does. -/
def respond (desk : Desk) : Typed → List Event × Except Breakdown Desk
  | .interrupt => ([.output "\n"], .ok desk)
  | .line text =>
      match desk.session.breakdown? text with
      | some found => (found.log.map .log, .error (.repetition found.cause))
      | none =>
          let response := desk.session.process text
          if desk.unrendered && desk.session.writes text then
            (response.log.map .log, .error .vacantRenderer)
          else
            (response.log.map .log ++ emitReply response.reply,
              .ok (desk.advance text response.session))

/-- The end of a session: a session fails when a line of it failed. -/
def leave (session : Session) : Ending :=
  .exit (if session.errors = 0 then 0 else 1)

/-- A session from its first prompt to the end of what the user does. -/
def converse (desk : Desk) : List Typed → Finish
  | [] =>
      { events :=
          if desk.session.running then [.output desk.prompt, .output "\n"] else []
        ending := leave desk.session }
  | typed :: others =>
      if desk.session.running then
        match respond desk typed with
        | (events, .error cause) => .broken (.output desk.prompt :: events) cause
        | (events, .ok next) => (converse next others).after (.output desk.prompt :: events)
      else { events := [], ending := leave desk.session }

/-- A session at a terminal. -/
def runTerminal (desk : Desk) (typed : List Typed) : Finish :=
  (converse desk typed).after (opening desk.session)

end CommandLine
end ExactAlgebra
