import ExactAlgebra.CommandLine.Path

/-!
# The working folder

Script paths are followed name by name from the working folder, or from the root
of the file system when they start with a slash. Of the folders around the
working folder nothing is known but that they exist.
-/

namespace ExactAlgebra
namespace CommandLine

/-- The files below a folder, each with the names on the way to it. -/
structure Folder where
  files : List (List String × String)

/-- Where a path has led so far. -/
inductive Place
  /-- Below the working folder. -/
  | inside (names : List String)
  /-- Below the root of the file system. -/
  | system (names : List String)
  /-- In a folder around the working folder. -/
  | around
  deriving DecidableEq

namespace Folder

/-- The folders at the root of every file system. -/
def systemFolders : List String :=
  ["bin", "boot", "dev", "etc", "home", "lib", "media", "mnt", "opt", "proc", "root", "run",
    "sbin", "srv", "sys", "tmp", "usr", "var"]

/-- The file that is always empty. -/
def emptyFile : List String := ["dev", "null"]

/-- The most bytes that a name may have. -/
def nameLimit : Nat := 255

/-- The most bytes that a path may have. -/
def pathLimit : Nat := 4095

/-- The contents of the file at a place, if there is a file. -/
def contents? (folder : Folder) : Place → Option String
  | .inside names => (folder.files.find? (·.1 = names)).map Prod.snd
  | .system names => if names = emptyFile then some "" else none
  | .around => none

/-- There is a file or a folder with the given name in a place. -/
def holds (folder : Folder) (place : Place) (name : String) : Bool :=
  match place with
  | .inside names => folder.files.any fun file => (names ++ [name]).isPrefixOf file.1
  | .system [] => name ∈ systemFolders
  | .system names => names ++ [name] = emptyFile
  | .around => false

/-- The place above. -/
def above : Place → Place
  | .inside [] => .around
  | .inside names => .inside names.dropLast
  | .system names => .system names.dropLast
  | .around => .around

/-- The place below with the given name. -/
def below (name : String) : Place → Place
  | .inside names => .inside (names ++ [name])
  | .system names => .system (names ++ [name])
  | .around => .around

/-- Follow one name. Only a folder can be left or entered. -/
def enter (folder : Folder) (place : Place) (name : String) : Except FileError Place :=
  if (folder.contents? place).isSome then .error .notDirectory
  else if name = ".." then .ok (above place)
  else if nameLimit < name.utf8ByteSize then .error .nameTooLong
  else if folder.holds place name then .ok (below name place)
  else .error .missing

/-- Read the file at a path in normal form. -/
def read (folder : Folder) (path : String) : Except FileError String :=
  if pathLimit < path.utf8ByteSize then .error .nameTooLong
  else do
    let start : Place := if pathRoot path = "" then .inside [] else .system []
    let place ← (pathParts path).foldlM folder.enter start
    match folder.contents? place with
    | some text => return text
    | none => throw .directory

end Folder
end CommandLine
end ExactAlgebra
