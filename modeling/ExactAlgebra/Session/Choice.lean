import ExactAlgebra.Session.Command

/-!
# Sessions without a renderer

A session may be opened before its renderer or its format is chosen. Until a
command chooses a renderer, every line works as long as no expression has to be
written.
-/

namespace ExactAlgebra
namespace Session

/-- The line is a command that chooses an input format. -/
def choosesFormat (line : String) : Bool :=
  match classify line with
  | .command (.format name) => (Format.ofName? (Text.lower name)).isSome
  | _ => false

/-- The line is a command that chooses a renderer. -/
def choosesRenderer (line : String) : Bool :=
  match classify line with
  | .command (.output name) => (Renderer.ofName? (Text.lower name)).isSome
  | _ => false

/-- The line is a command that writes the last expression of the program. -/
def writesLast (session : Session) (line : String) : Bool :=
  match classify line with
  | .command .last => session.program.last?.isSome
  | _ => false

/-- Processing the line writes an expression. -/
def writes (session : Session) (line : String) : Bool :=
  session.writesLast line ||
    match (session.process line).reply with
    | .result _ => true
    | _ => false

/-- The number of lines before the first one that has to write an expression
while no renderer is chosen, and the log of that line. If `ends`, no line is
processed after one that ends the session. -/
def firstUnwritten (ends : Bool) (session : Session) :
    List String → Option (Nat × List LogRecord)
  | [] => none
  | line :: lines =>
      let response := session.process line
      if choosesRenderer line then none
      else if session.writes line then some (0, response.log)
      else if ends && !response.session.running then none
      else (firstUnwritten ends response.session lines).map fun (count, log) => (count + 1, log)

end Session
end ExactAlgebra
