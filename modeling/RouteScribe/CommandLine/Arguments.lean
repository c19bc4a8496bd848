/-
Module: RouteScribe.CommandLine.Arguments
Layer: CommandLine
Purpose: The arguments of the program. A command has an input file, and options that each take one value, which
  stands in the next argument or behind an equals sign. Behind two dashes by themselves every argument is
  an input file.
Imports: none
Trusted boundary: human-reviewed spec
Main exports: Command, HelpTopic, Request, UsageFault, UsageFault.message, Request.ofArguments
Open obligations: none
-/

namespace RouteScribe

/-- A command. -/
inductive Command where
  | generate (input : String) (outputDirectory settingsFile : Option String)
  | routes (input : String) (settingsFile : Option String)
  | types (input : String) (settingsFile : Option String)
deriving DecidableEq, Repr

/-- The name of a command. -/
inductive CommandName where
  | generate
  | routes
  | types
deriving DecidableEq, Repr

namespace CommandName

/-- The names as they are written. -/
def text : CommandName → String
  | .generate => "generate"
  | .routes => "routes"
  | .types => "types"

/-- The commands. -/
def all : List CommandName := [.generate, .routes, .types]

/-- The command of a written name. -/
def ofText? (s : String) : Option CommandName := all.find? (·.text == s)

/-- The options that a command takes. -/
def options : CommandName → List String
  | .generate => ["out-dir", "config"]
  | .routes => ["config"]
  | .types => ["config"]

end CommandName

/-- What help is asked about. -/
inductive HelpTopic where
  | program
  | command (name : CommandName)
  /-- The word that asks for help. -/
  | help
deriving DecidableEq, Repr

/-- What is asked for. -/
inductive Request where
  | run (command : Command)
  | help (topic : HelpTopic)
  | version
deriving DecidableEq, Repr

/-- What is wrong with the arguments. -/
inductive UsageFault where
  | noCommand
  | unknownCommand (name : String)
  | unexpected (argument : String)
  /-- An option has no value, or an empty one. -/
  | noValue (option : String)
  | repeated (option : String)
  | noInput
deriving DecidableEq, Repr

/-- The wording of a fault. -/
def UsageFault.message : UsageFault → String
  | .noCommand => "a command is required"
  | .unknownCommand name => "unrecognized subcommand '" ++ name ++ "'"
  | .unexpected argument => "unexpected argument '" ++ argument ++ "' found"
  | .noValue option => "a value is required for '--" ++ option ++ "' but none was supplied"
  | .repeated option => "the argument '--" ++ option ++ "' cannot be used multiple times"
  | .noInput => "the following required arguments were not provided: <INPUT>"

/-!
### The arguments of a command
-/

/-- The arguments of a command that have been read. -/
structure Given where
  input : Option String := none
  options : List (String × String) := []
deriving Repr

namespace Given

/-- Take an input file. -/
def withInput (g : Given) (path : String) : Except UsageFault Given :=
  if g.input.isSome then .error (.unexpected path)
  else if path.isEmpty then .error .noInput
  else .ok { g with input := some path }

/-- Take the value of an option. -/
def withOption (g : Given) (option value : String) : Except UsageFault Given :=
  if (g.options.lookup option).isSome then .error (.repeated option)
  else if value.isEmpty then .error (.noValue option)
  else .ok { g with options := g.options ++ [(option, value)] }

end Given

/-- What an argument looks like. -/
inductive ArgumentForm where
  /-- An input file, or the value of an option. -/
  | value
  /-- Two dashes by themselves. -/
  | separator
  /-- An option by its name, and with the value that stands behind an equals sign. -/
  | option (name : String) (value : Option String)
  /-- Letters behind a single dash. -/
  | letters (first : Char)
deriving DecidableEq, Repr

/-- What an argument looks like. -/
def ArgumentForm.of (argument : String) : ArgumentForm :=
  match argument.toList with
  | ['-', '-'] => .separator
  | '-' :: '-' :: cs =>
    let name := cs.takeWhile (· != '=')
    .option (String.ofList name) ((cs.drop name.length).tail?.map String.ofList)
  | '-' :: c :: _ => .letters c
  | _ => .value

/-- Take input files only. -/
def readInputs (g : Given) : List String → Except UsageFault Given
  | [] => .ok g
  | argument :: rest =>
    match g.withInput argument with
    | .error why => .error why
    | .ok g => readInputs g rest

/-- Read the arguments of a command; nothing if its help is asked for. -/
def readGiven (allowed : List String) (g : Given) : List String → Except UsageFault (Option Given)
  | [] => .ok (some g)
  | argument :: rest =>
    match ArgumentForm.of argument with
    | .separator => (readInputs g rest).map some
    | .letters c => if c = 'h' then .ok none else .error (.unexpected argument)
    | .value =>
      match g.withInput argument with
      | .error why => .error why
      | .ok g => readGiven allowed g rest
    | .option name value =>
      if name = "help" ∧ value = none then .ok none
      else if !allowed.contains name then .error (.unexpected argument)
      else
        match value, rest with
        | some value, rest =>
          match g.withOption name value with
          | .error why => .error why
          | .ok g => readGiven allowed g rest
        | none, value :: rest =>
          if ArgumentForm.of value ≠ .value then .error (.noValue name)
          else
            match g.withOption name value with
            | .error why => .error why
            | .ok g => readGiven allowed g rest
        | none, [] => .error (.noValue name)

/-!
### Requests
-/

/-- The command that a name and its arguments make. -/
def Command.ofGiven (name : CommandName) (g : Given) : Except UsageFault Command :=
  match g.input with
  | none => .error .noInput
  | some input =>
    let settingsFile := g.options.lookup "config"
    .ok <| match name with
    | .generate => .generate input (g.options.lookup "out-dir") settingsFile
    | .routes => .routes input settingsFile
    | .types => .types input settingsFile

/-- What the arguments behind the name of a command ask for. -/
def Request.ofCommand (name : CommandName) (arguments : List String) : Except UsageFault Request :=
  match readGiven name.options {} arguments with
  | .error why => .error why
  | .ok none => .ok (.help (.command name))
  | .ok (some given) => (Command.ofGiven name given).map Request.run

/-- What a word behind the word `help` asks about. -/
def HelpTopic.ofText? (s : String) : Option HelpTopic :=
  if s = "help" then some .help else (CommandName.ofText? s).map HelpTopic.command

/-- What the arguments behind the word `help` ask for: at most one of them, which is what it is about. -/
def Request.ofHelp : List String → Except UsageFault Request
  | [] => .ok (.help .program)
  | name :: rest =>
    match HelpTopic.ofText? name, rest with
    | some topic, [] => .ok (.help topic)
    | some _, extra :: _ => .error (.unknownCommand extra)
    | none, _ => .error (.unknownCommand name)

/-- What arguments ask for. -/
def Request.ofArguments : List String → Except UsageFault Request
  | [] => .error .noCommand
  | first :: rest =>
    match ArgumentForm.of first with
    | .separator => .error (rest.head?.elim .noCommand UsageFault.unexpected)
    | .letters c =>
      if c = 'h' then .ok (.help .program)
      else if c = 'V' then .ok .version
      else .error (.unexpected first)
    | .option name value =>
      if name = "help" ∧ value = none then .ok (.help .program)
      else if name = "version" ∧ value = none then .ok .version
      else .error (.unexpected first)
    | .value =>
      if first = "help" then Request.ofHelp rest
      else
        match CommandName.ofText? first with
        | none => .error (.unknownCommand first)
        | some name => Request.ofCommand name rest

end RouteScribe
