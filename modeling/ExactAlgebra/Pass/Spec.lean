import ExactAlgebra.Pass.Basic
import ExactAlgebra.Text.Blank
import ExactAlgebra.Text.Lowercase
import ExactAlgebra.Text.Quoted

/-!
# Pass names

A pass is chosen by its name in any case, with a variable after a colon for
differentiation, as in `expand` or `d:x`. Blanks around the parts do not count,
and the case of the variable does.
-/

namespace ExactAlgebra

/-- Why a text names no pass. -/
inductive PassNameError
  | unknown (name : String)
  | missingVariable (name : String)
  | unexpectedArgument (name : String)
  | invalidVariable (text : String)
  deriving DecidableEq

namespace PassNameError

/-- The wording of a refused pass name. -/
def message : PassNameError → String
  | unknown name =>
      "Unknown pass: " ++ Text.quoted name ++ " (known: d, differentiate, expand, simplify)"
  | missingVariable name =>
      "Pass " ++ Text.quoted name ++ " requires a variable, e.g. " ++ name ++ ":x"
  | unexpectedArgument name => "Pass " ++ Text.quoted name ++ " takes no argument"
  | invalidVariable text => "Invalid variable name: " ++ Text.quoted text

end PassNameError

namespace Pass

/-- The names under which the passes are known. -/
def knownNames : List String := ["simplify", "expand", "differentiate", "d"]

/-- Differentiation with respect to a written variable. -/
def readDifferentiate (name argument : String) : Except PassNameError Pass :=
  if argument = "" then .error (.missingVariable name)
  else
    match Symbol.ofText? argument with
    | some target => .ok (differentiate target)
    | none => .error (.invalidVariable argument)

/-- The pass with a name in lower case and the text after its colon, if there is
a colon. -/
def ofParts (name : String) (argument? : Option String) : Except PassNameError Pass :=
  if name = "differentiate" ∨ name = "d" then
    readDifferentiate name (Text.strip (argument?.getD ""))
  else if name = "simplify" ∨ name = "expand" then
    if argument?.isSome then .error (.unexpectedArgument name)
    else .ok (if name = "simplify" then simplify else expand)
  else .error (.unknown name)

/-- Read the name of a pass. -/
def read (text : String) : Except PassNameError Pass :=
  let (head, argument?) := Text.cut ':' (Text.strip text)
  ofParts (Text.lower (Text.strip head)) argument?

/-- Read pass names separated by commas, passing over blank ones. -/
def readList (text : String) : Except PassNameError (List Pass) :=
  ((Text.splitAtChar ',' text).filter fun part => Text.strip part ≠ "").mapM read

end Pass
end ExactAlgebra
