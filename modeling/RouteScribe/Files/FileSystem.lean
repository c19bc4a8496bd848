/-
Module: RouteScribe.Files.FileSystem
Layer: Files
Purpose: What is asked of the file system. Everything that reads or writes files is written against these
  operations alone, so it runs on real files and on a workspace that is a value.
Imports: none
Trusted boundary: human-reviewed spec
Main exports: FileFault, FileFault.message, FileSystem
Open obligations: none
-/

namespace RouteScribe

/-- Why an operation on files fails. -/
inductive FileFault where
  | missing
  | notDirectory
  | isDirectory
  | alreadyExists
  /-- A path or one of its names is too long. -/
  | tooLong
  /-- A path has a character in it that is zero. -/
  | hasZero
  | other (message : String)
deriving DecidableEq, Repr, Inhabited

/-- The wording of the operating system. -/
def FileFault.message : FileFault → String
  | .missing => "No such file or directory (os error 2)"
  | .notDirectory => "Not a directory (os error 20)"
  | .isDirectory => "Is a directory (os error 21)"
  | .alreadyExists => "File exists (os error 17)"
  | .tooLong => "File name too long (os error 36)"
  | .hasZero => "file name contained an unexpected NUL byte"
  | .other message => message

/-- The operations on files. Paths are relative to the working directory, or absolute. -/
class FileSystem (m : Type → Type) where
  /-- What a file goes by that has been written to a directory and has not got its path yet. -/
  Temporary : Type
  /-- The absolute path of the working directory. -/
  workingDirectory : m String
  /-- Whether there is a file or a directory. -/
  isPresent : String → m Bool
  /-- Whether there is a file. -/
  isFile : String → m Bool
  /-- The text of a file. -/
  read : String → m (Except FileFault String)
  /-- Make a directory with all directories above it that are missing. -/
  makeDirectories : String → m (Except FileFault Unit)
  /-- Write a text to a new file of a directory, under a name that is not in use. -/
  writeTemporary : String → String → m (Except FileFault Temporary)
  /-- Give a temporary file its path. A file that has that path is replaced. -/
  rename : Temporary → String → m (Except FileFault Unit)
  /-- Remove a temporary file. -/
  discard : Temporary → m Unit
  /-- Remove a file. -/
  remove : String → m (Except FileFault Unit)

end RouteScribe
