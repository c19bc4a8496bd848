/-
Module: RouteScribe.Main
Layer: CommandLine
Purpose: The program itself: its arguments, the variables of its environment and the files of the system are handed
  to the command line, and its answer is printed.
Imports: RouteScribe.CommandLine
Trusted boundary: input and output
Main exports: main
Open obligations: none
-/
import RouteScribe.CommandLine

namespace RouteScribe

/-- The fault that an error of the system stands for. -/
def FileFault.ofError : IO.Error → FileFault
  | .noFileOrDirectory _ _ _ => .missing
  | .alreadyExists _ _ _ => .alreadyExists
  | error => .other (toString error)

/-- The outcome of an action on files. -/
def attempt {α : Type} (action : IO α) : IO (Except FileFault α) := do
  try pure (.ok (← action)) catch error => pure (.error (.ofError error))

instance : FileSystem IO where
  Temporary := String
  workingDirectory := do pure (← IO.currentDir).toString
  isPresent path := do pure (← attempt (IO.FS.Handle.mk path .read)).isOk
  isFile path := do pure (← attempt (IO.FS.readFile path)).isOk
  read path := attempt (IO.FS.readFile path)
  makeDirectories path := attempt (IO.FS.createDirAll path)
  writeTemporary directory text := attempt do
    let path := PathText.join directory (".tmp-" ++ toString (← IO.monoNanosNow))
    IO.FS.writeFile path text
    pure path
  rename temporary target := attempt (IO.FS.rename temporary target)
  discard temporary := do let _ ← attempt (IO.FS.removeFile temporary)
  remove path := attempt (IO.FS.removeFile path)

/-- The variable that a line of the environment assigns. -/
def variableOfLine? (line : String) : Option (String × String) :=
  match Text.splitAt '=' line.toList with
  | name :: value :: rest =>
    some (String.ofList name, String.ofList (['='].intercalate (value :: rest)))
  | _ => none

/-- The variables of the environment. -/
def readEnvironment : IO Variables := do
  match ← attempt (IO.FS.readFile "/proc/self/environ") with
  | .ok text => pure ((Text.parts '\x00' text).filterMap variableOfLine?)
  | .error _ => pure []

end RouteScribe

/-- Run the program on its arguments. -/
def main (arguments : List String) : IO UInt32 := do
  let environment ← RouteScribe.readEnvironment
  let isTerminal ← (← IO.getStdout).isTty
  let reply ← RouteScribe.CommandLine.run isTerminal environment arguments
  IO.print reply.output
  IO.eprint reply.errors
  pure reply.status.toUInt32
