/-
Module: RouteScribe.Files.PathText
Layer: Files
Purpose: Paths of files as they are written. A path is kept as its text; its components are the names between
  the slashes, where empty names and single dots say nothing.
Imports: RouteScribe.Text.Split
Trusted boundary: human-reviewed spec
Main exports: PathText.components, PathText.join, PathText.extension?, PathText.wantsDirectory,
  PathText.endsInDot
Open obligations: none
-/
import RouteScribe.Text.Split

namespace RouteScribe.PathText

/-- The names between the slashes. -/
def names (path : String) : List String := Text.parts '/' path

/-- The names that say something. -/
def components (path : String) : List String :=
  (names path).filter fun name => name != "" && name != "."

/-- Whether a path starts at the root. -/
def isAbsolute (path : String) : Bool := path.toList.head? == some '/'

/-- Whether a path can only be that of a directory, by the way it ends. -/
def wantsDirectory (path : String) : Bool :=
  match (names path).getLast? with
  | some "" => true
  | some "." => true
  | _ => false

/-- Whether the last name of a path is a single dot, which is no name of its own. -/
def endsInDot (path : String) : Bool := ((names path).filter (· != "")).getLast? == some "."

/-- The path of an entry of a directory. -/
def join (directory name : String) : String :=
  if directory = "" then name
  else if directory.toList.getLast? = some '/' then directory ++ name
  else directory ++ "/" ++ name

/-- The name of the file, if the path ends in one. -/
def fileName? (path : String) : Option String :=
  match (components path).getLast? with
  | some ".." => none
  | name => name

/-- What stands behind the last dot of the file's name. A dot at the start of the name does not count. -/
def extension? (path : String) : Option String := do
  let name ← fileName? path
  let parts := Text.splitAt '.' name.toList
  match parts with
  | [_] => none
  | [[], _] => none
  | _ => parts.getLast?.map String.ofList

/-- The directories above an absolute path, itself first. -/
def ancestors (path : String) : List String :=
  let all := components path
  (List.range (all.length + 1)).reverse.map fun n => "/" ++ "/".intercalate (all.take n)

end RouteScribe.PathText
