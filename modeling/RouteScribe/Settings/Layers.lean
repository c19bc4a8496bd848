/-
Module: RouteScribe.Settings.Layers
Layer: Settings
Purpose: Settings from all places where they can be made: a file of settings, a file of variables in the working
  directory or above it, and the variables of the environment. Of two places the later one counts.
Imports: RouteScribe.Files.FileSystem, RouteScribe.Files.PathText, RouteScribe.Settings,
  RouteScribe.Settings.EnvironmentFile, RouteScribe.Text.LowerText
Trusted boundary: human-reviewed spec
Main exports: Settings.ofVariables, loadSettings
Open obligations: none
-/
import RouteScribe.Files.FileSystem
import RouteScribe.Files.PathText
import RouteScribe.Settings
import RouteScribe.Settings.EnvironmentFile
import RouteScribe.Text.LowerText

namespace RouteScribe

namespace Settings

/-- What the names of the variables start with that are settings. -/
def variableStart : String := "ROUTEGEN_"

/-- The key of the setting that a variable makes, if it makes one. -/
def keyOfVariable? (name : String) : Option String :=
  let start := variableStart.toList
  let cs := name.toList
  let rest := cs.drop start.length
  if start.isPrefixOf cs && !rest.isEmpty then
    let words := (Text.lowerText (String.ofList rest)).toList
    some ("routegen." ++ String.ofList (words.map fun c => if c = '_' then '.' else c))
  else none

/-- The settings that variables make. -/
def ofVariables (environment : Variables) : Settings :=
  ofPairs (environment.filterMap fun (name, value) => (keyOfVariable? name).map fun key => (key, value))

/-- The file of settings that is read when no other one is named. -/
def standardFile : String := "routegen.yaml"

/-- The name of a file of variables. -/
def variablesFile : String := ".env"

end Settings

section

variable {m : Type → Type} [Monad m] [FileSystem m]

/-- The settings of a file. -/
def readSettings (path : String) : m (Except SettingFault Settings) := do
  match ← FileSystem.read path with
  | .error why => pure (.error (.unreadable why.message))
  | .ok text => pure (Settings.ofYaml text)

/-- The settings of the file that is named, or else of the standard one if it is there. -/
def loadFileSettings (file : Option String) : m (Except SettingFault Settings) := do
  let path := file.getD Settings.standardFile
  if ← FileSystem.isPresent path then readSettings path
  else
    match file with
    | some path => pure (.error (.noFile path))
    | none => pure (.ok .empty)

/-- The first of some paths that is that of a file. -/
def findFile : List String → m (Option String)
  | [] => pure none
  | path :: paths => do
    if ← FileSystem.isFile path then pure (some path) else findFile paths

/-- The variables together with those of the nearest file of variables. -/
def extendVariables (environment : Variables) : m Variables := do
  let directories := PathText.ancestors (← FileSystem.workingDirectory)
  match ← findFile (directories.map fun d => PathText.join d Settings.variablesFile) with
  | none => pure environment
  | some path =>
    match ← FileSystem.read path with
    | .error _ => pure environment
    | .ok text => pure (EnvironmentFile.extend environment text)

/-- The settings of all places, and the variables that are known when they have been read. -/
def loadSettings (file : Option String) (environment : Variables) :
    m (Except SettingFault Settings × Variables) := do
  match ← loadFileSettings file with
  | .error why => pure (.error why, environment)
  | .ok settings =>
    let environment ← extendVariables environment
    pure (.ok (settings.append (.ofVariables environment)), environment)

end

end RouteScribe
