import ExactAlgebra.Session.Command

/-!
# Completion

What a word on a command line can be completed to: the options of the command
that the line starts with, or else the names of commands.
-/

namespace ExactAlgebra
namespace Session

/-- The commands that are offered. -/
def commandNames : List String :=
  [":help", ":quit", ":exit", ":q", ":format", ":output", ":transform", ":passes", ":clear",
    ":trace", ":reset", ":last"]

/-- The beginnings of pass names, with the colon where a variable must follow. -/
def passStarts : List String :=
  ["simplify", "expand", "differentiate:", "d:"]

/-- The words that can stand at the end of a line. -/
def candidates (word line : String) : List String :=
  let line := Text.stripFront line
  if Text.startsWith ":format " line then Format.all.map Format.name
  else if Text.startsWith ":output " line then Renderer.all.map Renderer.name
  else if Text.startsWith ":trace " line then ["on", "off"]
  else if Text.startsWith ":transform " line then passStarts
  else if Text.startsWith ":" word || (Text.startsWith ":" line && !line.toList.contains ' ') then
    commandNames
  else []

/-- The candidates that start with the word. -/
def completions (word line : String) : List String :=
  (candidates word line).filter (Text.startsWith word)

end Session
end ExactAlgebra
