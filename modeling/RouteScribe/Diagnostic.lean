/-
Module: RouteScribe.Diagnostic
Layer: Routes
Purpose: What can be found wrong with a program or with the output directory. Every finding is a warning and
  stops nothing; it has a code, a wording, and the place where it was found.
Imports: none
Trusted boundary: human-reviewed spec
Main exports: Finding, Finding.code, Finding.message, Diagnostic, Diagnostic.text
Open obligations: none
-/

namespace RouteScribe

/-- Something found wrong. Markers are named by the paths of their attributes. -/
inductive Finding where
  /-- The group marker has an argument that is no text. -/
  | prefixNotText (marker : String)
  /-- A single-verb marker has an argument that is no text. -/
  | templateNotText (marker : String)
  /-- A multi-verb marker has fewer than two arguments. -/
  | argumentsMissing (marker : String)
  /-- The arguments of a multi-verb marker are no text and list. -/
  | argumentsIllTyped (marker : String)
  /-- No item of a multi-verb marker's list is a verb. -/
  | noUsableVerb (marker : String)
  /-- An item of a multi-verb marker's list is no verb. -/
  | unknownVerb (shown : String)
  /-- An attribute derives from the base of the single-verb markers and is none of them. -/
  | unknownVerbMarker (marker : String)
  /-- A type of a handler's signature could not be resolved. -/
  | unresolvedType (type : String)
  /-- A handler has one more request context. -/
  | repeatedContext (parameter : String)
  /-- An artifact could not be written. -/
  | notWritten (cause : String)
  /-- The file of an artifact that is no longer produced could not be removed. -/
  | notRemoved (cause : String)
deriving DecidableEq, Repr, Inhabited

namespace Finding

/-- The code under which a finding is reported. -/
def code : Finding → String
  | .prefixNotText _ | .templateNotText _ | .argumentsMissing _ | .argumentsIllTyped _
  | .noUsableVerb _ => "RG001"
  | .unknownVerb _ => "RG002"
  | .unknownVerbMarker _ => "RG003"
  | .unresolvedType _ => "RG004"
  | .repeatedContext _ => "RG005"
  | .notWritten _ | .notRemoved _ => "RG100"

/-- Whether the finding is about the output directory and not about the program. -/
def isAboutFiles : Finding → Bool
  | .notWritten _ | .notRemoved _ => true
  | _ => false

/-- The wording of a finding. -/
def message : Finding → String
  | .prefixNotText marker =>
    "`" ++ marker ++ "` expects a string route prefix; group mounted at the root"
  | .templateNotText marker => "`" ++ marker ++ "` expects a string route template"
  | .argumentsMissing marker =>
    "`" ++ marker ++ "` requires a template and a list of verbs; route skipped"
  | .argumentsIllTyped marker =>
    "`" ++ marker ++ "` expects a template string and a list of verbs; route skipped"
  | .noUsableVerb marker => "`" ++ marker ++ "` has no usable verbs; route skipped"
  | .unknownVerb shown => "`" ++ shown ++ "` is not an HTTP method and was ignored"
  | .unknownVerbMarker marker => "`" ++ marker ++ "` is not a known verb marker; route skipped"
  | .unresolvedType type =>
    "handler signature mentions an unresolved type in `" ++ type ++ "`; route skipped"
  | .repeatedContext parameter =>
    "parameter `" ++ parameter ++
      "` is a second request context and is passed as a plain argument"
  | .notWritten cause => "could not write artifact: " ++ cause
  | .notRemoved cause => "could not remove stale artifact: " ++ cause

end Finding

/-- A finding and its place: a type, a method of a type, or a file. -/
structure Diagnostic where
  finding : Finding
  location : String
deriving DecidableEq, Repr, Inhabited

namespace Diagnostic

/-- The code under which the diagnostic is reported. -/
def code (d : Diagnostic) : String := d.finding.code

/-- The wording of the diagnostic. -/
def message (d : Diagnostic) : String := d.finding.message

/-- The diagnostic as one line. -/
def text (d : Diagnostic) : String :=
  "warning[" ++ d.code ++ "]: " ++ d.message ++ " (" ++ d.location ++ ")"

end Diagnostic

end RouteScribe
