/-
Module: RouteScribe.CommandLine.Console
Layer: CommandLine
Purpose: How the program talks to the terminal. Variables say whether text is painted: one forbids it, one
  demands it, and without either it depends on the terminal. Answers, help and the log weigh them each in
  their own way. A variable also says which events the log shows.
Imports: RouteScribe.CommandLine.LogFilter, RouteScribe.Settings.EnvironmentFile
Trusted boundary: human-reviewed spec
Main exports: Console, Console.ofVariables
Open obligations: none
-/
import RouteScribe.CommandLine.LogFilter
import RouteScribe.Settings.EnvironmentFile

namespace RouteScribe

/-- How the program talks to the terminal. -/
structure Console where
  /-- Whether answers are painted. -/
  paintsAnswers : Bool := false
  /-- Whether help is painted. -/
  paintsHelp : Bool := false
  /-- Whether the log is painted. -/
  paintsLog : Bool := false
  /-- Which events the log shows. -/
  logFilter : LogFilter := .standard
deriving DecidableEq, Repr

namespace Console

/-- Whether the variables demand that answers are painted. -/
def isDemanded (environment : Variables) : Bool :=
  (environment.lookup "CLICOLOR_FORCE").any (· ≠ "0")

/-- Whether the variables demand that help is painted, by a text that says something. -/
def isHelpDemanded (environment : Variables) : Bool :=
  (environment.lookup "CLICOLOR_FORCE").any (· ≠ "")

/-- Whether the variables let a terminal be painted. -/
def isAllowed (environment : Variables) : Bool := environment.lookup "CLICOLOR" ≠ some "0"

/-- Whether the variables forbid painting, by a text that says something. -/
def isForbidden (environment : Variables) : Bool :=
  (environment.lookup "NO_COLOR").any (· ≠ "")

/-- How to talk to the terminal, by the variables. In answers a demand counts more than a ban, in help the
    ban counts more; the log is painted unless that is forbidden. A filter of the log that cannot be read
    is ignored. -/
def ofVariables (isTerminal : Bool) (environment : Variables) : Console where
  paintsAnswers := isDemanded environment ||
    ((environment.lookup "NO_COLOR").isNone && isTerminal && isAllowed environment)
  paintsHelp := !isForbidden environment &&
    (isHelpDemanded environment || (isTerminal && isAllowed environment))
  paintsLog := !isForbidden environment
  logFilter := ((environment.lookup "RUST_LOG").bind LogFilter.ofText?).getD .standard

/-- The same console after further variables have become known, which say how answers are painted. The log
    is open by then. -/
def afterwards (c : Console) (isTerminal : Bool) (environment : Variables) : Console :=
  { c with paintsAnswers := (ofVariables isTerminal environment).paintsAnswers }

end Console

end RouteScribe
