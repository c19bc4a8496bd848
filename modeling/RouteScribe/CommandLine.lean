/-
Module: RouteScribe.CommandLine
Layer: CommandLine
Purpose: The program as it is used from a terminal. Every command reads a declaration dump and the settings, and
  answers with a text, with messages, and with the number zero unless something went wrong.
Imports: RouteScribe.CommandLine.Console, RouteScribe.CommandLine.HelpText, RouteScribe.CommandLine.Paint,
  RouteScribe.CommandLine.PassLog, RouteScribe.Dump.DumpFile, RouteScribe.Listing, RouteScribe.Publishing,
  RouteScribe.Settings.Layers, RouteScribe.Settings.OptionKeys
Trusted boundary: human-reviewed spec
Main exports: Reply, InputFault, Inputs, loadInputs, runGenerate, CommandLine.run
Open obligations: none
-/
import RouteScribe.CommandLine.Console
import RouteScribe.CommandLine.HelpText
import RouteScribe.CommandLine.Paint
import RouteScribe.CommandLine.PassLog
import RouteScribe.Dump.DumpFile
import RouteScribe.Listing
import RouteScribe.Publishing
import RouteScribe.Settings.Layers
import RouteScribe.Settings.OptionKeys

namespace RouteScribe

/-- What the program answers. -/
structure Reply where
  status : Nat := 0
  output : String := ""
  errors : String := ""
deriving DecidableEq, Repr

/-- Why a command cannot start. -/
inductive InputFault where
  | dump (why : DumpFault)
  | setting (why : SettingFault)
deriving DecidableEq, Repr

/-- The wording of a fault. -/
def InputFault.message : InputFault → String
  | .dump why => why.message
  | .setting why => why.message

/-- What a command starts from. -/
structure Inputs where
  /-- The program whose dump is in a file, and the options that the settings choose. -/
  result : Except InputFault (Program × Options)
  /-- The variables that are known when all has been read. -/
  environment : Variables
  /-- What the log is told. -/
  events : List LogEvent

section

variable {m : Type → Type} [Monad m] [FileSystem m]

/-- Read what a command starts from. Without a program the settings are not looked at. -/
def loadInputs (input : String) (settingsFile : Option String) (environment : Variables) :
    m Inputs := do
  match ← loadProgram input with
  | .error why => pure ⟨.error (.dump why), environment, []⟩
  | .ok program =>
    let (settings, environment) ← loadSettings settingsFile environment
    let result := match settings.bind Options.ofSettings with
      | .error why => .error (.setting why)
      | .ok options => .ok (program, options)
    pure ⟨result, environment, [.ofProgram input program]⟩

/-- A pass over what a command starts from. A directory that is given counts before the one that is
    set. -/
def runGenerate (inputs : Inputs) (outputDirectory : Option String) : m (Except InputFault Pass) := do
  match inputs.result with
  | .error why => pure (.error why)
  | .ok (program, options) =>
    let directory := outputDirectory.orElse fun _ => options.outputDirectory
    pure (.ok (← runPass program { options with outputDirectory := directory }))

end

namespace CommandLine

/-- Lines of text, each with its end. -/
def lines (ls : List String) : String := String.join (ls.map fun l => l ++ "\n")

/-- A text with a look, if looks are wanted. -/
def painted (c : Console) (p : Paint) (s : String) : String :=
  Paint.paintIf c.paintsAnswers (some p) 0 s

/-- The line of an error, and failure. -/
def failure (c : Console) (message : String) : Reply :=
  { status := 1, errors := lines [painted c .red ("Error: " ++ message)] }

/-- An answer with the lines of the log before its messages. -/
def logged (c : Console) (events : List LogEvent) (reply : Reply) : Reply :=
  let log := (events.filter c.logFilter.shows).map (·.line c.paintsLog)
  { reply with errors := lines log ++ reply.errors }

/-!
### Generating
-/

/-- An artifact behind the name of its file. -/
def artifactText (a : Artifact) : String := "// " ++ a.fileName ++ "\n" ++ a.content ++ "\n"

/-- The lines about the files that were written. -/
def summary (c : Console) (p : Pass) : List String :=
  let files := p.written.map fun path =>
    painted c .green "✓" ++ " Generated " ++ painted c .cyan path
  let g := p.generation
  files ++ ["  " ++ toString g.groups.length ++ " groups, " ++ toString g.routeCount ++ " routes, " ++
    toString g.types.size ++ " serializable types"]

/-- The answer to a pass: the artifacts themselves, unless they were written to files. -/
def replyOfPass (c : Console) (p : Pass) : Reply :=
  if p.generation.artifacts.isEmpty then
    { output := lines [painted c .dimmed "No route groups found."] }
  else if 0 < p.failureCount then
    failure c (toString p.failureCount ++ " artifact file(s) could not be written or removed")
  else if p.written.isEmpty then
    { output := String.join (p.generation.artifacts.map artifactText) }
  else { output := lines (summary c p) }

/-!
### Lists
-/

/-- The lines about what is wrong with the routes. -/
def warningLines (c : Console) (ds : List Diagnostic) : String :=
  lines (ds.map fun d => painted c .yellow d.text)

/-- The look of the verbs of a route. -/
def paintOfVerbs? (verbs : String) : Option Paint :=
  if verbs = "GET" then some .green
  else if verbs = "POST" then some .blue
  else if verbs = "PUT" then some .yellow
  else if verbs = "DELETE" then some .red
  else if verbs = "PATCH" then some .magenta
  else none

/-- A line of a table. -/
def tableLine (c : Console) (paints : Option Paint × Option Paint × Option Paint)
    (r : RouteRow) : String :=
  "  " ++ Paint.paintIf c.paintsAnswers paints.1 12 r.verbs ++ " " ++
    Paint.paintIf c.paintsAnswers paints.2.1 40 r.path ++ " " ++
    Paint.paintIf c.paintsAnswers paints.2.2 0 r.handler

/-- The table of the routes of some groups. -/
def routeTable (c : Console) (groups : List RouteGroup) : List String :=
  let rows := routeRows groups
  let head := tableLine c (some .dimmed, some .dimmed, some .dimmed) ⟨"METHOD", "PATH", "HANDLER"⟩
  let rule := "  " ++ painted c .dimmed (String.ofList (List.replicate 80 '-'))
  [painted c .bold "Declared routes:", "", head, rule] ++
    rows.map (fun r => tableLine c (paintOfVerbs? r.verbs, none, none) r) ++
    ["", "  " ++ toString rows.length ++ " routes in " ++ toString groups.length ++ " groups"]

/-- The answer with the routes of a program. -/
def replyOfRoutes (c : Console) (p : Program) (o : Options) : Reply :=
  let scanned := scan p o.conventions
  { errors := warningLines c scanned.diagnostics
    output := lines <|
      if (routeRows scanned.groups).isEmpty then [painted c .dimmed "No routes found."]
      else routeTable c scanned.groups }

/-- The answer with the types that the routes of a program can reach. -/
def replyOfTypes (c : Console) (p : Program) (o : Options) : Reply :=
  let found := reachableTypes p o
  { errors := warningLines c found.diagnostics
    output := lines <|
      if found.types.isEmpty then
        [painted c .dimmed "No serializable types reachable from routes."]
      else
        [painted c .bold "Serializable types:", ""] ++
          found.types.names.map (fun name => "  " ++ painted c .cyan name) ++
          ["", "  " ++ toString found.types.size ++ " types total"] }

/-!
### Running
-/

section

variable {m : Type → Type} [Monad m] [FileSystem m]

/-- Answer with a list about the program of a file. -/
def runListing (consoleOf : Variables → Console) (inputs : Inputs)
    (reply : Console → Program → Options → Reply) : Reply :=
  let console := consoleOf inputs.environment
  match inputs.result with
  | .error why => logged console inputs.events (failure console why.message)
  | .ok (program, options) =>
    let groups := (scan program options.conventions).groups
    logged console (inputs.events ++ groups.map .ofGroup) (reply console program options)

/-- Run a command. How its answer is painted can depend on variables that it comes to know. -/
def runCommand (consoleOf : Variables → Console) (environment : Variables) : Command → m Reply
  | .generate input outputDirectory settingsFile => do
    let inputs ← loadInputs input settingsFile environment
    let console := consoleOf inputs.environment
    match ← runGenerate inputs outputDirectory with
    | .error why => pure (logged console inputs.events (failure console why.message))
    | .ok pass => pure (logged console (inputs.events ++ LogEvent.ofPass pass) (replyOfPass console pass))
  | .routes input settingsFile => do
    pure (runListing consoleOf (← loadInputs input settingsFile environment) replyOfRoutes)
  | .types input settingsFile => do
    pure (runListing consoleOf (← loadInputs input settingsFile environment) replyOfTypes)

/-- The answer to arguments that cannot be read. Without any, it is how the program is used. -/
def refusal (c : Console) (why : UsageFault) : Reply :=
  let text := match why with
    | .noCommand => HelpText.ofTopic c.paintsHelp .program
    | why => "error: " ++ why.message ++ "\n\nFor more information, try '--help'.\n"
  { status := 2, errors := text }

/-- Run the program. -/
def run (isTerminal : Bool) (environment : Variables) (arguments : List String) : m Reply :=
  let console := Console.ofVariables isTerminal environment
  match Request.ofArguments arguments with
  | .error why => pure (refusal console why)
  | .ok .version => pure { output := HelpText.version }
  | .ok (.help topic) => pure { output := HelpText.ofTopic console.paintsHelp topic }
  | .ok (.run command) =>
    runCommand (console.afterwards isTerminal) environment command

end

end CommandLine

end RouteScribe
