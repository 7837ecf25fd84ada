import ExactAlgebra.Text.Blank
import ExactAlgebra.Text.Quoted

/-!
# Script paths

Paths are shown in a normal form without empty and dot components. Reading a
script can fail in a few ways that are told to the user.
-/

namespace ExactAlgebra
namespace CommandLine

/-- The root of a path: none, one slash, or the two slashes that some systems
give a meaning of their own. -/
def pathRoot (path : String) : String :=
  match path.toList with
  | '/' :: '/' :: '/' :: _ => "/"
  | '/' :: '/' :: _ => "//"
  | '/' :: _ => "/"
  | _ => ""

/-- The components of a path, without empty and dot components. -/
def pathParts (path : String) : List String :=
  (Text.splitAtChar '/' path).filter fun part => part ≠ "" ∧ part ≠ "."

/-- The normal form of a path. -/
def normalizePath (path : String) : String :=
  let normal := pathRoot path ++ "/".intercalate (pathParts path)
  if normal = "" then "." else normal

/-- Why a file cannot be read. -/
inductive FileError
  | missing
  | directory
  | notDirectory
  | denied
  | nameTooLong
  deriving DecidableEq

namespace FileError

/-- The wording of a failure to read the file at a path. -/
def message (path : String) : FileError → String
  | missing => "[Errno 2] No such file or directory: " ++ Text.quoted path
  | directory => "[Errno 21] Is a directory: " ++ Text.quoted path
  | notDirectory => "[Errno 20] Not a directory: " ++ Text.quoted path
  | denied => "[Errno 13] Permission denied: " ++ Text.quoted path
  | nameTooLong => "[Errno 36] File name too long: " ++ Text.quoted path

end FileError
end CommandLine
end ExactAlgebra
