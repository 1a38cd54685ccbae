/-!
# Files

What the program finds at a path, and a folder of texts to look in.
-/

namespace Vigil.CommandLine

/-- What is found at a path. -/
inductive Found where
  | missing
  | belowFile
  | folder
  | unreadable (problem : String)
  | text (content : String)
deriving DecidableEq, Repr

/-- What the system says where a path does not lead to a text. -/
def Found.problem? : Found → Option String
  | missing => some "No such file or directory (os error 2)"
  | belowFile => some "Not a directory (os error 20)"
  | folder => some "Is a directory (os error 21)"
  | unreadable problem => some problem
  | text _ => none

/-- Whether a path leads to anything. -/
def Found.exists : Found → Bool
  | missing | belowFile => false
  | folder | unreadable _ | text _ => true

/-- The parts of a path between its strokes. -/
def pathParts (path : String) : List String :=
  path.splitOn "/"

/-- A folder of texts by their paths. -/
structure Folder where
  files : List (String × String)

namespace Folder

/-- What stands at a place in the folder, given by the names on the way to it. -/
def at? (folder : Folder) (place : List String) : Found :=
  match folder.files.find? fun file => pathParts file.1 == place with
  | some (_, content) => .text content
  | none =>
    if place.isEmpty || folder.files.any fun file => place.isPrefixOf (pathParts file.1) then
      .folder
    else
      .missing

/-- What is found above the folder: folders, but nothing in them. -/
def above (parts : List String) : Found :=
  if parts.all fun part => part = "" ∨ part = "." ∨ part = ".." then .folder else .missing

/-- Follow the parts of a path from a place in the folder. -/
def follow (folder : Folder) (place : List String) : List String → Found
  | [] => folder.at? place
  | part :: rest =>
    match folder.at? place with
    | .folder =>
      if part = "" ∨ part = "." then folder.follow place rest
      else if part = ".." then
        if place.isEmpty then above rest else folder.follow place.dropLast rest
      else folder.follow (place ++ [part]) rest
    | .text _ => .belowFile
    | found => found

/-- What is found at a path. Paths from the root lead out of the folder. -/
def find (folder : Folder) (path : String) : Found :=
  if path.startsWith "/" then .missing else folder.follow [] (pathParts path)

end Folder

end Vigil.CommandLine
