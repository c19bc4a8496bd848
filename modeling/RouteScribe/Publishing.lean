/-
Module: RouteScribe.Publishing
Layer: Generation
Purpose: Bringing the output directory in line with a pass. An artifact is written beside its file first and
  then takes its place, so a file is never half written; the file of a kind that the pass did not produce
  is removed. A failure concerns one file and becomes a diagnostic.
Imports: RouteScribe.Files.FileSystem, RouteScribe.Files.PathText, RouteScribe.Generation
Trusted boundary: human-reviewed spec
Main exports: FileOutcome, writeArtifact, removeStale, publish, Pass, runPass
Open obligations: none
-/
import RouteScribe.Files.FileSystem
import RouteScribe.Files.PathText
import RouteScribe.Generation

namespace RouteScribe

/-- What became of the file of one kind of artifact. -/
inductive FileOutcome where
  | written (path : String)
  | removed (path : String)
  /-- There was nothing to remove. -/
  | absent
  | failed (diagnostic : Diagnostic)
deriving DecidableEq, Repr

namespace FileOutcome

/-- The file that was written. -/
def written? : FileOutcome → Option String
  | .written path => some path
  | _ => none

/-- The file that was removed. -/
def removed? : FileOutcome → Option String
  | .removed path => some path
  | _ => none

/-- What went wrong. -/
def diagnostic? : FileOutcome → Option Diagnostic
  | .failed diagnostic => some diagnostic
  | _ => none

end FileOutcome

section

variable {m : Type → Type} [Monad m] [FileSystem m]

/-- Write a text to a file by way of a temporary one, which is gone afterwards in any case. -/
def replaceFile (directory path text : String) : m (Except FileFault Unit) := do
  match ← FileSystem.makeDirectories directory with
  | .error fault => pure (.error fault)
  | .ok () =>
    match ← FileSystem.writeTemporary directory text with
    | .error fault => pure (.error fault)
    | .ok temporary =>
      match ← FileSystem.rename temporary path with
      | .ok () => pure (.ok ())
      | .error fault =>
        FileSystem.discard temporary
        pure (.error fault)

/-- Write an artifact to its file. -/
def writeArtifact (directory : String) (a : Artifact) : m FileOutcome := do
  let path := PathText.join directory a.fileName
  match ← replaceFile directory path a.content with
  | .ok () => pure (.written path)
  | .error fault => pure (.failed ⟨.notWritten fault.message, path⟩)

/-- Remove the file of a kind that was not produced. -/
def removeStale (directory : String) (kind : ArtifactKind) : m FileOutcome := do
  let path := PathText.join directory kind.fileName
  match ← FileSystem.remove path with
  | .ok () => pure (.removed path)
  | .error .missing => pure .absent
  | .error fault => pure (.failed ⟨.notRemoved fault.message, path⟩)

/-- The kinds of which a list has no artifact. -/
def missingKinds (artifacts : List Artifact) : List ArtifactKind :=
  ArtifactKind.all.filter fun kind => !artifacts.any (·.kind == kind)

/-- Bring a directory in line with a list of artifacts: first those that are there, then the kinds that
    are missing. -/
def publish (directory : String) (artifacts : List Artifact) : m (List FileOutcome) := do
  let written ← artifacts.mapM (writeArtifact directory)
  let removed ← (missingKinds artifacts).mapM (removeStale directory)
  pure (written ++ removed)

end

/-- A pass and what became of the files. -/
structure Pass where
  generation : Generation
  outcomes : List FileOutcome

namespace Pass

/-- The files that were written. -/
def written (p : Pass) : List String := p.outcomes.filterMap FileOutcome.written?

/-- The files that were removed. -/
def removed (p : Pass) : List String := p.outcomes.filterMap FileOutcome.removed?

/-- What was found wrong with the program, and then with the files. -/
def diagnostics (p : Pass) : List Diagnostic :=
  p.generation.diagnostics ++ p.outcomes.filterMap FileOutcome.diagnostic?

/-- The number of files that could not be written or removed. -/
def failureCount (p : Pass) : Nat :=
  (p.diagnostics.filter fun d => d.finding.isAboutFiles).length

end Pass

/-- Run a pass, and bring the output directory in line with it if there is one. -/
def runPass {m : Type → Type} [Monad m] [FileSystem m] (p : Program) (o : Options) : m Pass := do
  let generation := generate p o
  match o.outputDirectory with
  | none => pure ⟨generation, []⟩
  | some directory => pure ⟨generation, ← publish directory generation.artifacts⟩

end RouteScribe
