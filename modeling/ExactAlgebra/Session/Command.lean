import ExactAlgebra.Session.Basic

/-!
# Commands

A line that starts with a colon is a command. The name of a command may be in any
case, and so may the names of formats and renderers.
-/

namespace ExactAlgebra

/-- A command with what was written after its name. -/
inductive Command
  | blank
  | help
  | quit
  | format (name : String)
  | output (name : String)
  | transform (names : String)
  | passes
  | clear
  | trace (setting : String)
  | reset
  | last
  | unknown (name : String)
  deriving DecidableEq

namespace Command

/-- The command with a name in lower case and its argument. -/
def ofParts (name argument : String) : Command :=
  match name with
  | "help" => help
  | "quit" | "exit" | "q" => quit
  | "format" => format argument
  | "output" => output argument
  | "transform" => transform argument
  | "passes" => passes
  | "clear" => clear
  | "trace" => trace argument
  | "reset" => reset
  | "last" => last
  | name => unknown name

/-- Read the text after the colon. -/
def read (text : String) : Command :=
  let start := text.toList.dropWhile Text.isBlank
  let name := start.takeWhile (!Text.isBlank ·)
  let rest := start.dropWhile (!Text.isBlank ·)
  if name.isEmpty then blank
  else ofParts (Text.lower (String.ofList name)) (Text.strip (String.ofList rest))

/-- The overview of all commands. -/
def helpText : String :=
  "RADIX REPL Commands:\n" ++
  "  :help              Show this help\n" ++
  "  :format NAME       Set input format (polish, program)\n" ++
  "  :output NAME       Set output renderer (linear, tree)\n" ++
  "  :transform SPEC... Add passes (simplify, expand, differentiate:VAR, d:VAR)\n" ++
  "  :passes            List the active passes\n" ++
  "  :clear             Remove all passes\n" ++
  "  :trace on|off      Toggle tracing\n" ++
  "  :reset             Forget the straight-line program\n" ++
  "  :last              Show the last expression of the program\n" ++
  "  :quit              Exit\n" ++
  "\n" ++
  "Syntax:\n" ++
  "  polish:   + x * 2 y          Operators + - * / ^ take two operands\n" ++
  "  program:  . x                Define a variable or integer leaf\n" ++
  "            ^ 0 1              Apply an operator to earlier lines by index\n"

end Command

namespace Session

/-- Choose the input format. -/
def setFormat (session : Session) (name : String) : Session × Reply :=
  match Format.ofName? (Text.lower name) with
  | none =>
      (session, .message ("Unknown format. Options: " ++
        ", ".intercalate (Format.all.map Format.name)))
  | some format =>
      ({ session with format := format }, .message ("Format set to: " ++ format.name))

/-- Choose the renderer. -/
def setRenderer (session : Session) (name : String) : Session × Reply :=
  match Renderer.ofName? (Text.lower name) with
  | none =>
      (session, .message ("Unknown output. Options: " ++
        ", ".intercalate (Renderer.all.map Renderer.name)))
  | some renderer =>
      ({ session with renderer := renderer }, .message ("Output set to: " ++ renderer.name))

/-- The names of the passes in the order in which they are applied. -/
def passChain (session : Session) : String :=
  " -> ".intercalate session.pipeline.names

/-- Pass names in a command, separated by blanks or commas. -/
def passNames (text : String) : List String :=
  Text.words (String.ofList (text.toList.map fun character =>
    if character = ',' then ' ' else character))

/-- Add passes by name. -/
def transform (session : Session) (names : String) : Session × Reply :=
  if names = "" then (session, .message "Usage: :transform PASS [PASS ...]")
  else
    match session.addPasses (passNames names) with
    | .error cause => (session.countError, .failure (.passName cause))
    | .ok extended => (extended, .message ("Passes: " ++ extended.passChain))

/-- The tracing that a setting asks for; anything unknown turns it over. -/
def tracingAfter (tracing : Bool) (setting : String) : Bool :=
  if setting ∈ ["on", "true", "1"] then true
  else if setting ∈ ["off", "false", "0"] then false
  else !tracing

/-- Turn tracing on, off or over. -/
def setTracing (session : Session) (setting : String) : Session × Reply :=
  let tracing := tracingAfter session.tracing (Text.lower setting)
  ({ session with tracing := tracing },
    .message ("Tracing " ++ (if tracing then "enabled" else "disabled")))

/-- Carry out a command. -/
def execute (session : Session) : Command → Session × Reply
  | .blank => (session, .message "Unknown command. Type :help for help.")
  | .help => (session, .message Command.helpText)
  | .quit => ({ session with running := false }, .silent)
  | .format name => session.setFormat name
  | .output name => session.setRenderer name
  | .transform names => session.transform names
  | .passes =>
      (session, .message (if session.pipeline.isEmpty then "No passes" else session.passChain))
  | .clear => ({ session with pipeline := [] }, .message "Cleared all passes")
  | .trace setting => session.setTracing setting
  | .reset => ({ session with program := .empty }, .message "Program cleared")
  | .last =>
      match session.program.last? with
      | none => (session, .message "No expression defined")
      | some expr => (session, .message (session.render expr))
  | .unknown name =>
      (session, .message ("Unknown command: " ++ name ++ ". Type :help for help."))

/-- The kinds of lines that a session takes. -/
inductive Line
  /-- A blank line or a comment. -/
  | ignored
  | command (command : Command)
  | expression (text : String)
  deriving DecidableEq

/-- The kind of a line, after the blanks around it are removed. -/
def classify (line : String) : Line :=
  let text := Text.strip line
  match text.toList with
  | [] => .ignored
  | '#' :: _ => .ignored
  | ':' :: rest => .command (.read (String.ofList rest))
  | _ => .expression text

/-- Process one line. -/
def process (session : Session) (line : String) : Response :=
  match classify line with
  | .ignored => { session := session, reply := .silent, log := [] }
  | .command command =>
      let (after, reply) := session.execute command
      { session := after, reply := reply, log := [] }
  | .expression text =>
      match session.format with
      | .program => session.processProgram text
      | .polish => session.processPolish text

end Session
end ExactAlgebra
