/-
Module: RouteScribe.CommandLine.HelpText
Layer: CommandLine
Purpose: How the program and its commands are used. Headings and what is to be typed as it stands have a look of
  their own.
Imports: RouteScribe.CommandLine.Arguments, RouteScribe.CommandLine.Paint
Trusted boundary: human-reviewed spec
Main exports: HelpText.version, HelpText.ofTopic
Open obligations: none
-/
import RouteScribe.CommandLine.Arguments
import RouteScribe.CommandLine.Paint

namespace RouteScribe.HelpText

/-- The name and the version of the program. -/
def version : String := "routegen 0.1.0\n"

/-- A piece of a line with its look. -/
abbrev Piece := Option Paint × String

/-- A line. -/
abbrev Line := List Piece

/-- A piece without a look. -/
def plain (s : String) : Piece := (none, s)

/-- A heading. -/
def heading (s : String) : Piece := (some .heading, s)

/-- What is to be typed as it stands. -/
def literal (s : String) : Piece := (some .bold, s)

/-- What a command is for. -/
def purpose : CommandName → String
  | .generate => "Generate the registration, dispatch and serialization artifacts"
  | .routes => "List every route found in a declaration dump"
  | .types => "List the types reachable from route inputs and outputs"

/-- What the word that asks for help is for. -/
def purposeOfHelp : String := "Print this message or the help of the given subcommand(s)"

/-- The line of an option that has one letter as well. -/
def switchLine (letter name rest : String) : Line :=
  [plain "  ", literal letter, plain ", ", literal name, plain rest]

/-- The line of an option with a value. -/
def optionLine (name rest : String) : Line := [plain "      ", literal name, plain rest]

/-- The lines of the options of a command. -/
def optionLines : CommandName → List Line
  | .generate => [
      optionLine "--out-dir" " <OUT_DIR>  Write artifacts here instead of printing them",
      optionLine "--config" " <CONFIG>    Config file (defaults to ./routegen.yaml when present)",
      switchLine "-h" "--help" "               Print help"]
  | .routes => [
      optionLine "--config" " <CONFIG>  ", switchLine "-h" "--help" "             Print help"]
  | .types => [
      optionLine "--config" " <CONFIG>  ", switchLine "-h" "--help" "             Print help"]

/-- What is said about the input file of a command. -/
def inputLine : CommandName → Line
  | .generate => [plain "  <INPUT>  Declaration dump (.json, .yaml or .yml)"]
  | .routes => [plain "  <INPUT>  "]
  | .types => [plain "  <INPUT>  "]

/-- The line of a command in the list of commands. -/
def commandLine (name purpose : String) : Line :=
  [plain "  ", literal name, plain (String.ofList (List.replicate (10 - name.length) ' ')),
    plain purpose]

/-- The lines of the list of commands. -/
def commandLines : List Line :=
  (CommandName.all.map fun name => commandLine name.text (purpose name)) ++
  [commandLine "help" purposeOfHelp]

/-- The line that shows what is typed. -/
def usageLine (words rest : String) : Line :=
  [heading "Usage:", plain " ", literal words, plain rest]

/-- The lines about a topic. -/
def linesOf : HelpTopic → List Line
  | .program =>
    [[plain "routegen: route registration code from a declaration dump"], [],
      usageLine "routegen" " <COMMAND>", [], [heading "Commands:"]] ++ commandLines ++
    [[], [heading "Options:"], switchLine "-h" "--help" "     Print help",
      switchLine "-V" "--version" "  Print version"]
  | .command name =>
    [[plain (purpose name)], [], usageLine ("routegen " ++ name.text) " [OPTIONS] <INPUT>", [],
      [heading "Arguments:"], inputLine name, [], [heading "Options:"]] ++ optionLines name
  | .help =>
    [[plain purposeOfHelp], [], usageLine "routegen help" " [COMMAND]...", [],
      [heading "Arguments:"], [plain "  [COMMAND]...  Print help for the subcommand(s)"]]

/-- The text of a line, with looks if they are wanted. -/
def textOfLine (isPainted : Bool) (line : Line) : String :=
  String.join (line.map fun (look, s) => Paint.paintIf isPainted look 0 s) ++ "\n"

/-- The help about a topic, with looks if they are wanted. -/
def ofTopic (isPainted : Bool) (topic : HelpTopic) : String :=
  String.join ((linesOf topic).map (textOfLine isPainted))

end RouteScribe.HelpText
