import ExactAlgebra.Session.Command

/-!
# Sessions that break down

A line fails when it cannot be read or rewritten, and the session goes on with the next
one. But when the passes meet a power that cannot be unrolled, the session breaks down
with the line. The records of the log up to there are written all the same.
-/

namespace ExactAlgebra
namespace Session

/-- Why a session breaks down, and the log of the line up to there. -/
structure Breakdown where
  log : List LogRecord
  cause : RepetitionError

/-- Why rewriting an expression breaks a session down, if it does. -/
def evaluationBreakdown? (session : Session) (expr : Expr) : Option Breakdown :=
  (session.pipeline.break? expr).map fun found =>
    { log := found.steps.map .applied, cause := found.cause }

/-- Why a session breaks down on a line, if it does. The expression of a program is
defined before it is rewritten. -/
def breakdown? (session : Session) (line : String) : Option Breakdown :=
  match classify line with
  | .expression text =>
      match session.format with
      | .polish => (Input.Polish.parse text).toOption.bind session.evaluationBreakdown?
      | .program =>
          (session.program.readLine text).toOption.bind fun expr =>
            (session.evaluationBreakdown? expr).map fun found =>
              { found with log := .defined session.program.size expr :: found.log }
  | _ => none

/-- The number of lines before the first one that a session breaks down on, and why it
does. If `ends`, no line is processed after one that ends the session. -/
def firstBreakdown? (ends : Bool) (session : Session) : List String → Option (Nat × Breakdown)
  | [] => none
  | line :: lines =>
      match session.breakdown? line with
      | some found => some (0, found)
      | none =>
          let after := (session.process line).session
          if ends && !after.running then none
          else
            (firstBreakdown? ends after lines).map fun (count, found) => (count + 1, found)

end Session
end ExactAlgebra
