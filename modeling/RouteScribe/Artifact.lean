/-
Module: RouteScribe.Artifact
Layer: Artifacts
Purpose: The files that are produced from a program: what they are called and how they are laid out.
Imports: RouteScribe.UseBlock
Trusted boundary: human-reviewed spec
Main exports: ArtifactKind, ArtifactKind.fileName, Artifact, Artifact.ofParts
Open obligations: none
-/
import RouteScribe.UseBlock

namespace RouteScribe

/-- What a file is for. -/
inductive ArtifactKind where
  /-- Makes the groups available to the serving layer. -/
  | registration
  /-- Wires the routes into a router. -/
  | dispatch
  /-- Makes the reachable types known to a serializer. -/
  | serialization
deriving DecidableEq, Repr, Inhabited

namespace ArtifactKind

/-- Every kind, in the order in which files are produced. -/
def all : List ArtifactKind := [.registration, .dispatch, .serialization]

/-- The name of the file. -/
def fileName : ArtifactKind → String
  | .registration => "route_groups.rs"
  | .dispatch => "route_table.rs"
  | .serialization => "serializable_types.rs"

end ArtifactKind

/-- A produced file. -/
structure Artifact where
  kind : ArtifactKind
  content : String
deriving DecidableEq, Repr, Inhabited

namespace Artifact

/-- The name of the file. -/
def fileName (a : Artifact) : String := a.kind.fileName

/-- The first line of every file. -/
def header : String := "// @generated by routegen. Do not edit by hand.\n"

/-- A file of its imports and its body: the header, the imports if there are any, and the body, with an
    empty line between them. -/
def ofParts (kind : ArtifactKind) (uses : UseBlock) (body : String) : Artifact where
  kind := kind
  content := header ++ "\n" ++ (if uses.isEmpty then "" else uses.text ++ "\n") ++ body

end Artifact

end RouteScribe
