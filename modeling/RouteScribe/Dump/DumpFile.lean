/-
Module: RouteScribe.Dump.DumpFile
Layer: Dump
Purpose: Files that hold a declaration dump. The ending of the file's name says in which format it is written.
Imports: RouteScribe.Dump.JsonSource, RouteScribe.Dump.YamlSource, RouteScribe.Files.FileSystem,
  RouteScribe.Files.PathText, RouteScribe.Program
Trusted boundary: human-reviewed spec
Main exports: DumpFault, DumpFault.message, loadProgram
Open obligations: none
-/
import RouteScribe.Dump.JsonSource
import RouteScribe.Dump.YamlSource
import RouteScribe.Files.FileSystem
import RouteScribe.Files.PathText
import RouteScribe.Program

namespace RouteScribe

/-- Why a dump cannot be loaded. -/
inductive DumpFault where
  | unreadable (path : String) (why : FileFault)
  | json (why : JsonFault)
  | yaml (why : Yaml.Fault)
  /-- No format has that ending. -/
  | unknownFormat (ending : String)
deriving DecidableEq, Repr

/-- The wording of a fault of a JSON text. -/
def JsonFault.message : JsonFault → String
  | .text .unfinished => "the text ends too early"
  | .text .malformed => "the text is no JSON"
  | .shape why => why.message

/-- The wording of a fault of a YAML text. -/
def Yaml.Fault.message : Yaml.Fault → String
  | .malformed => "the text is no YAML"
  | .wrongShape => "the text does not have the shape of a dump"

/-- The wording of a fault. -/
def DumpFault.message : DumpFault → String
  | .unreadable path why => "cannot read '" ++ path ++ "': " ++ why.message
  | .json why => "invalid JSON declaration dump: " ++ why.message
  | .yaml why => "invalid YAML declaration dump: " ++ why.message
  | .unknownFormat ending =>
    "unsupported declaration dump extension '" ++ ending ++ "' (expected json, yaml or yml)"

/-- A format of dumps. -/
inductive DumpFormat where
  | json
  | yaml
deriving DecidableEq, Repr

namespace DumpFormat

/-- The format of files whose names have an ending. -/
def ofEnding? (ending : String) : Option DumpFormat :=
  if ending = "json" then some .json
  else if ending = "yaml" ∨ ending = "yml" then some .yaml
  else none

/-- The program whose dump is given. -/
def read (format : DumpFormat) (text : String) : Except DumpFault Program :=
  match format with
  | .json => ((declarationsOfJson text).mapError DumpFault.json).map Program.ofDeclarations
  | .yaml => ((declarationsOfYaml text).mapError DumpFault.yaml).map Program.ofDeclarations

end DumpFormat

/-- The program whose dump is in a file. -/
def loadProgram {m : Type → Type} [Monad m] [FileSystem m] (path : String) :
    m (Except DumpFault Program) := do
  match ← FileSystem.read path with
  | .error why => pure (.error (.unreadable path why))
  | .ok text =>
    let ending := (PathText.extension? path).getD ""
    match DumpFormat.ofEnding? ending with
    | none => pure (.error (.unknownFormat ending))
    | some format => pure (format.read text)

end RouteScribe
