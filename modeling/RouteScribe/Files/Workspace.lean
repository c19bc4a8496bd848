/-
Module: RouteScribe.Files.Workspace
Layer: Files
Purpose: The files and directories below the root as a value, and the operations of a file system on them. A
  path is followed name by name; every name but the last one must be that of a directory, and two dots
  lead to the directory above. Names and paths have a greatest length.
Imports: RouteScribe.Files.FileSystem, RouteScribe.Files.PathText
Trusted boundary: human-reviewed spec
Main exports: Entry, Workspace, Workspace.get?, Workspace.put, Workspace.erase, Workspace.listing
Open obligations: none
-/
import RouteScribe.Files.FileSystem
import RouteScribe.Files.PathText

namespace RouteScribe

/-- A file with its text, or a directory. -/
inductive Entry where
  | file (text : String)
  | directory
deriving DecidableEq, Repr, Inhabited

/-- Files and directories, each with the names that lead to it from the root, and the working directory.
    The root itself is always there. -/
structure Workspace where
  entries : List (List String × Entry) := []
  workingDirectory : List String := []
deriving DecidableEq, Repr, Inhabited

namespace Workspace

/-- What is found at the end of a row of names. -/
def get? (w : Workspace) (names : List String) : Option Entry :=
  if names.isEmpty then some .directory
  else (w.entries.find? (·.1 == names)).map (·.2)

/-- The workspace without what is at the end of a row of names. -/
def erase (w : Workspace) (names : List String) : Workspace :=
  { w with entries := w.entries.filter (·.1 != names) }

/-- The workspace with an entry at the end of a row of names, in place of what was there. -/
def put (w : Workspace) (names : List String) (entry : Entry) : Workspace :=
  { w.erase names with entries := (w.erase names).entries ++ [(names, entry)] }

/-- The workspace without an entry and all that is below it. -/
def eraseTree (w : Workspace) (names : List String) : Workspace :=
  { w with entries := w.entries.filter fun entry => !names.isPrefixOf entry.1 }

/-!
### Following paths
-/

/-- Whether a row of names leads to a directory, and if not, why. -/
def directoryFault? (w : Workspace) (names : List String) : Option FileFault :=
  match w.get? names with
  | some .directory => none
  | some (.file _) => some .notDirectory
  | none => some .missing

/-- The greatest length of a name, in octets. -/
def nameLimit : Nat := 255

/-- The greatest length of a path, in octets. -/
def pathLimit : Nat := 4095

/-- Why there can be no such path at all, if there cannot. -/
def pathFault? (path : String) : Option FileFault :=
  if path.toList.contains '\x00' then some .hasZero
  else if pathLimit < path.utf8ByteSize then some .tooLong
  else none

/-- Where a name leads from a directory. -/
def step (here : List String) (name : String) : Except FileFault (List String) :=
  if nameLimit < name.utf8ByteSize then .error .tooLong
  else .ok (if name = ".." then here.dropLast else here ++ [name])

/-- Follow the components of a path from a directory. The last one need not be there. -/
def follow (w : Workspace) (here : List String) : List String → Except FileFault (List String)
  | [] => .ok here
  | name :: rest =>
    match w.directoryFault? here with
    | some fault => .error fault
    | none =>
      match step here name with
      | .error fault => .error fault
      | .ok there => w.follow there rest

/-- The directory from which a path is followed. -/
def startOf (w : Workspace) (path : String) : List String :=
  if PathText.isAbsolute path then [] else w.workingDirectory

/-- The names to which a path leads from the root. -/
def locate (w : Workspace) (path : String) : Except FileFault (List String) :=
  match pathFault? path with
  | some fault => .error fault
  | none => w.follow (w.startOf path) (PathText.components path)

/-- What a path leads to. -/
def lookup (w : Workspace) (path : String) : Except FileFault (List String × Entry) :=
  if path = "" then .error .missing
  else
    match w.locate path with
    | .error fault => .error fault
    | .ok names =>
      match w.get? names with
      | none => .error .missing
      | some .directory => .ok (names, .directory)
      | some (.file text) =>
        if PathText.wantsDirectory path then .error .notDirectory else .ok (names, .file text)

/-!
### The operations
-/

/-- Make the directories along the components of a path. Those that are made stay, also if a later one
    cannot be made. -/
def makeAlong (w : Workspace) (here : List String) :
    List String → Workspace × Except FileFault Unit
  | [] => (w, .ok ())
  | name :: rest =>
    match step here name with
    | .error fault => (w, .error fault)
    | .ok there =>
      match w.get? there with
      | some .directory => w.makeAlong there rest
      | some (.file _) => (w, .error (if rest.isEmpty then .alreadyExists else .notDirectory))
      | none => (w.put there .directory).makeAlong there rest

/-- Make a directory with all directories above it. By the name of a single dot no directory can be made,
    so behind one it has to be there when those above it are. -/
def makeDirectories (w : Workspace) (path : String) : Workspace × Except FileFault Unit :=
  let start := w.startOf path
  let names := PathText.components path
  match pathFault? path with
  | some fault => (w, .error fault)
  | none =>
    if PathText.endsInDot path then
      match w.makeAlong start names.dropLast with
      | (w, .error fault) => (w, .error fault)
      | (w, .ok ()) =>
        match w.follow start names with
        | .error fault => (w, .error fault)
        | .ok there =>
          match w.directoryFault? there with
          | some fault => (w, .error fault)
          | none => (w, .ok ())
    else w.makeAlong start names

/-- The text of a file. -/
def read (w : Workspace) (path : String) : Except FileFault String :=
  match w.lookup path with
  | .error fault => .error fault
  | .ok (_, .directory) => .error .isDirectory
  | .ok (_, .file text) => .ok text

/-- A name that is longer than every name that is in use. -/
def unusedName (w : Workspace) : String :=
  let lengths := w.entries.flatMap fun entry => entry.1.map String.length
  String.ofList ('.' :: List.replicate (lengths.foldl max 0) '~')

/-- Write a text to a new file of a directory. The file goes by the names that lead to it. -/
def writeTemporary (w : Workspace) (directory text : String) :
    Workspace × Except FileFault (List String) :=
  match w.locate directory with
  | .error fault => (w, .error fault)
  | .ok names =>
    match w.directoryFault? names with
    | some fault => (w, .error fault)
    | none =>
      let temporary := names ++ [w.unusedName]
      (w.put temporary (.file text), .ok temporary)

/-- Where a file of a given path would be, if there is a directory for it and no directory is there. -/
def fileTarget (w : Workspace) (path : String) : Except FileFault (List String) :=
  match w.locate path with
  | .error fault => .error fault
  | .ok names =>
    match w.directoryFault? names.dropLast with
    | some fault => .error fault
    | none =>
      match w.get? names with
      | some .directory => .error .isDirectory
      | _ => .ok names

/-- Give a temporary file its path. -/
def rename (w : Workspace) (temporary : List String) (target : String) :
    Workspace × Except FileFault Unit :=
  match w.get? temporary with
  | none => (w, .error .missing)
  | some .directory => (w, .error .isDirectory)
  | some (.file text) =>
    match w.fileTarget target with
    | .error fault => (w, .error fault)
    | .ok there => ((w.erase temporary).put there (.file text), .ok ())

/-- Remove a file. -/
def remove (w : Workspace) (path : String) : Workspace × Except FileFault Unit :=
  match w.lookup path with
  | .error fault => (w, .error fault)
  | .ok (_, .directory) => (w, .error .isDirectory)
  | .ok (names, .file _) => (w.erase names, .ok ())

/-- Whether there is a file or a directory. -/
def isPresent (w : Workspace) (path : String) : Bool := (w.lookup path).isOk

/-- Whether there is a file. -/
def isFile (w : Workspace) (path : String) : Bool :=
  match w.lookup path with
  | .ok (_, .file _) => true
  | _ => false

instance : FileSystem (StateM Workspace) where
  Temporary := List String
  workingDirectory := do pure ("/" ++ "/".intercalate (← get).workingDirectory)
  isPresent path := do pure ((← get).isPresent path)
  isFile path := do pure ((← get).isFile path)
  read path := do pure ((← get).read path)
  makeDirectories path := modifyGet fun w => (w.makeDirectories path).swap
  writeTemporary directory text := modifyGet fun w => (w.writeTemporary directory text).swap
  rename temporary target := modifyGet fun w => (w.rename temporary target).swap
  discard temporary := modify fun w => w.erase temporary
  remove path := modifyGet fun w => (w.remove path).swap

/-- Everything below the working directory, with paths relative to it. -/
def listing (w : Workspace) : List (String × Entry) :=
  w.entries.filterMap fun (names, entry) =>
    if w.workingDirectory.isPrefixOf names && w.workingDirectory != names then
      some ("/".intercalate (names.drop w.workingDirectory.length), entry)
    else none

end Workspace

end RouteScribe
