/-
Module: RouteScribe.CommandLine.PassLog
Layer: CommandLine
Purpose: What the log is told about the work on a program: what was read, which groups were found, which artifacts
  were made, which files were removed, and what was found wrong.
Imports: RouteScribe.CommandLine.LogEvent, RouteScribe.Publishing
Trusted boundary: human-reviewed spec
Main exports: LogEvent.ofProgram, LogEvent.ofGroup, LogEvent.ofPass
Open obligations: none
-/
import RouteScribe.CommandLine.LogEvent
import RouteScribe.Publishing

namespace RouteScribe.LogEvent

/-- The part of the program that reads what a command needs. -/
def inputTarget : String := "routegen_cli::commands"

/-- The part of the program that looks for groups. -/
def scanTarget : String := "routegen_core::scan"

/-- The part of the program that runs passes. -/
def passTarget : String := "routegen_core::pipeline"

/-- A text in quotation marks; it must need no escapes. -/
def quoted (s : String) : String := "\"" ++ s ++ "\""

/-- The program of a file has been read. -/
def ofProgram (input : String) (p : Program) : LogEvent where
  level := .debug
  target := inputTarget
  message := "Loaded declaration dump"
  fields := [("input", input), ("declarations", toString p.types.length)]

/-- A group has been found. -/
def ofGroup (g : RouteGroup) : LogEvent where
  level := .debug
  target := scanTarget
  message := "Discovered route group"
  fields := [("group", g.path), ("prefix", g.pathPrefix), ("routes", toString g.entries.length)]

/-- An artifact has been made. -/
def ofArtifact (a : Artifact) : LogEvent where
  level := .debug
  target := passTarget
  message := "Emitted artifact"
  fields := [("artifact", quoted a.fileName), ("bytes", toString a.content.utf8ByteSize)]

/-- The file of an artifact that is no longer made has been removed. -/
def ofRemoved (path : String) : LogEvent where
  level := .debug
  target := passTarget
  message := "Removed stale artifact"
  fields := [("path", path)]

/-- Something has been found wrong. -/
def ofDiagnostic (d : Diagnostic) : LogEvent where
  level := .warning
  target := passTarget
  message := d.message
  fields := [("code", quoted d.code), ("location", d.location)]

/-- What happened in a pass, in its order. -/
def ofPass (p : Pass) : List LogEvent :=
  p.generation.groups.map ofGroup ++ p.generation.artifacts.map ofArtifact ++
    p.removed.map ofRemoved ++ p.diagnostics.map ofDiagnostic

end RouteScribe.LogEvent
