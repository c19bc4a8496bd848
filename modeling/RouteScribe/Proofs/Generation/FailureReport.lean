/-
Module: RouteScribe.Proofs.Generation.FailureReport
Layer: Proofs
Purpose: Failures of the output directory are contained. Whatever is found in the file system, a pass yields what it
  yields without an output directory; of each kind of artifact exactly one thing is reported, which is true of
  its file; and a file that could not be written or removed is as it was.
Imports: RouteScribe.Proofs.Files.Attempts, RouteScribe.Proofs.Generation.OutputMirror
Trusted boundary: human-reviewed spec
Main exports: Pass.reports, Workspace.Keeps, Workspace.KeepsTarget, Settled, Contained, failures_contained
Open obligations: none
-/
import RouteScribe.Proofs.Files.Attempts
import RouteScribe.Proofs.Generation.OutputMirror

namespace RouteScribe

/-!
### The specification
-/

/-- What a pass reports under a path: that it was written, that it was removed, and what failed there. -/
def Pass.reports (pass : Pass) (path : String) : List String × List String × List Diagnostic :=
  (pass.written.filter (· == path), pass.removed.filter (· == path),
    pass.diagnostics.filter fun d => d.code == "RG100" && d.location == path)

namespace Workspace

/-- `before.Keeps directory place after` says that there is in a place what was there, or where there was nothing a
    directory on the way to the output. -/
def Keeps (before : Workspace) (directory : String) (place : List String) (after : Workspace) : Prop :=
  after.get? place = before.get? place ∨
    before.get? place = none ∧ after.get? place = some .directory ∧
      (before.makeDirectories directory).1.get? place = some .directory

/-- The same of the place to which a path leads, before or afterwards. -/
def KeepsTarget (before : Workspace) (directory path : String) (after : Workspace) : Prop :=
  ∀ place, before.locate path = .ok place ∨ after.locate path = .ok place → before.Keeps directory place after

end Workspace

/-- How a pass can end for a kind of which it has an artifact or none: there is one report, or there was no file. -/
inductive Settled (directory : String) (before : Workspace) (pass : Pass) (after : Workspace) (kind : ArtifactKind) :
    Option Artifact → Prop where
  | written (a : Artifact)
      (reports : pass.reports (kind.pathIn directory) = ([kind.pathIn directory], [], []))
      (read : after.read (kind.pathIn directory) = .ok a.content) :
      Settled directory before pass after kind (some a)
  | notWritten (a : Artifact) (cause : String)
      (reports : pass.reports (kind.pathIn directory) = ([], [], [⟨.notWritten cause, kind.pathIn directory⟩]))
      (kept : before.KeepsTarget directory (kind.pathIn directory) after) :
      Settled directory before pass after kind (some a)
  | removed
      (reports : pass.reports (kind.pathIn directory) = ([], [kind.pathIn directory], []))
      (was : before.hadFile after (kind.pathIn directory) = true)
      (gone : after.lookup (kind.pathIn directory) = .error .missing) :
      Settled directory before pass after kind none
  | absent
      (reports : pass.reports (kind.pathIn directory) = ([], [], []))
      (missing : before.lookup (kind.pathIn directory) = .error .missing)
      (still : after.lookup (kind.pathIn directory) = .error .missing) :
      Settled directory before pass after kind none
  | notRemoved (cause : String)
      (reports : pass.reports (kind.pathIn directory) = ([], [], [⟨.notRemoved cause, kind.pathIn directory⟩]))
      (kept : before.KeepsTarget directory (kind.pathIn directory) after) :
      Settled directory before pass after kind none

/-- `Contained directory plain before pass after` says that a pass yields what `plain` does, which has no output
    directory, and that all that failed is told. -/
structure Contained (directory : String) (plain : Pass) (before : Workspace) (pass : Pass) (after : Workspace) :
    Prop where
  generation : pass.generation = plain.generation
  diagnostics : (pass.diagnostics.filter fun d => d.code != "RG100") = plain.diagnostics
  settled : ∀ kind : ArtifactKind, Settled directory before pass after kind (pass.generation.artifact? kind)
  /-- Nothing is reported of other files. -/
  noOther : ∀ path, (∀ kind : ArtifactKind, path ≠ kind.pathIn directory) → pass.reports path = ([], [], [])
  /-- No file fares differently for what becomes of the others: each has the outcome that it has when it is the
      only one that is written or removed, once the directory is made as far as it can be. -/
  alone : pass.outcomes = (stepsFor pass.generation.artifacts).map
    ((before.readied directory pass.generation.artifacts).alone directory)
  /-- Nothing changes but the files that are reported as written or removed: no temporary file is left. -/
  others : ∀ place, (∀ kind : ArtifactKind, kind.pathIn directory ∈ pass.written ++ pass.removed →
    after.locate (kind.pathIn directory) ≠ .ok place) → before.Keeps directory place after
  workingDirectory : after.workingDirectory = before.workingDirectory

/-!
### Reports
-/

/-- The path that an outcome is about. -/
def FileOutcome.path? : FileOutcome → Option String
  | .written path => some path
  | .removed path => some path
  | .absent => none
  | .failed d => some d.location

section

variable {g : Generation} {outcomes : List FileOutcome} {path directory : String} {w before after : Workspace}
  {kind : ArtifactKind} {text : Option String} {outcome : FileOutcome}

/-- What is kept of the outcomes by their path comes from those that are about it. -/
theorem filter_filterMap_about {α : Type} (outcomes : List FileOutcome) (f : FileOutcome → Option α)
    (keep : α → Bool) (path : String)
    (about : ∀ outcome x, f outcome = some x → keep x = true → outcome.path? = some path) :
    (outcomes.filterMap f).filter keep =
      ((outcomes.filter fun outcome => outcome.path? == some path).filterMap f).filter keep := by
  rw [List.filter_filterMap, List.filter_filterMap, List.filterMap_filter]
  congr 1
  funext outcome
  cases told : f outcome with
  | none => simp
  | some x =>
      cases kept : keep x with
      | false => simp [Option.filter, kept]
      | true => simp [Option.filter, kept, about outcome x told kept]

theorem reports_filter (g : Generation) (outcomes : List FileOutcome) (path : String) :
    (⟨g, outcomes⟩ : Pass).reports path =
      (⟨g, outcomes.filter fun outcome => outcome.path? == some path⟩ : Pass).reports path := by
  have written := filter_filterMap_about outcomes FileOutcome.written? (· == path) path <| by
    rintro (_ | _ | _ | _) x <;> simp +contextual [FileOutcome.written?, FileOutcome.path?]
  have removed := filter_filterMap_about outcomes FileOutcome.removed? (· == path) path <| by
    rintro (_ | _ | _ | _) x <;> simp +contextual [FileOutcome.removed?, FileOutcome.path?]
  have failed := filter_filterMap_about outcomes FileOutcome.diagnostic?
      (fun d => d.code == "RG100" && d.location == path) path <| by
    rintro (_ | _ | _ | _) x <;> simp +contextual [FileOutcome.diagnostic?, FileOutcome.path?]
  simp only [Pass.reports, Pass.written, Pass.removed, Pass.diagnostics, List.filter_append, written, removed,
    failed]

/-- An outcome that tells something is about the path of its kind, or about none. -/
theorem FileOutcome.Tells.path?_eq (tells : outcome.Tells directory before after kind text) {path : String}
    (about : outcome.path? = some path) : path = kind.pathIn directory := by
  cases tells <;> simp_all [FileOutcome.path?]

/-- There is one step for each kind. -/
theorem filter_kind {steps : List (ArtifactKind × Option String)} (distinct : (steps.map Prod.fst).Nodup)
    {step : ArtifactKind × Option String} (mem : step ∈ steps) : (steps.filter fun other => other.1 == step.1) = [step] := by
  obtain ⟨front, rest, rfl⟩ := List.append_of_mem mem
  rw [List.map_append, List.map_cons, List.nodup_middle, List.nodup_cons, ← List.map_append] at distinct
  have others (other : ArtifactKind × Option String) (mem : other ∈ front ++ rest) : ¬ (other.1 == step.1) = true := by
    intro same
    apply distinct.1
    rw [← beq_iff_eq.mp same]
    exact List.mem_map_of_mem mem
  have front : (front.filter fun other => other.1 == step.1) = [] :=
    List.filter_eq_nil_iff.mpr fun other mem => others other (List.mem_append_left _ mem)
  have rest : (rest.filter fun other => other.1 == step.1) = [] :=
    List.filter_eq_nil_iff.mpr fun other mem => others other (List.mem_append_right _ mem)
  simp [List.filter_append, front, rest]

/-- What is reported under the path of a kind's file comes from the step for the kind. -/
theorem reports_step {steps : List (ArtifactKind × Option String)} {f : ArtifactKind × Option String → FileOutcome}
    (distinct : (steps.map Prod.fst).Nodup)
    (tells : ∀ step ∈ steps, (f step).Tells directory before after step.1 step.2)
    {step : ArtifactKind × Option String} (mem : step ∈ steps) :
    (⟨g, steps.map f⟩ : Pass).reports (step.1.pathIn directory) =
      (⟨g, [f step]⟩ : Pass).reports (step.1.pathIn directory) := by
  have own : (steps.filter fun other => (f other).path? == some (step.1.pathIn directory)) =
      [step].filter fun other => (f other).path? == some (step.1.pathIn directory) := by
    rw [← filter_kind distinct mem, List.filter_filter]
    apply List.filter_congr
    intro other mem
    by_cases about : (f other).path? = some (step.1.pathIn directory)
    · have same := ArtifactKind.pathIn_inj ((tells other mem).path?_eq about)
      simp [about, same]
    · simp [about]
  let about (outcome : FileOutcome) : Bool := outcome.path? == some (step.1.pathIn directory)
  calc (⟨g, steps.map f⟩ : Pass).reports (step.1.pathIn directory)
    _ = (⟨g, (steps.map f).filter about⟩ : Pass).reports (step.1.pathIn directory) := reports_filter ..
    _ = (⟨g, ([step].map f).filter about⟩ : Pass).reports (step.1.pathIn directory) := by
      rw [List.filter_map, List.filter_map]
      exact congrArg (fun steps => (⟨g, steps.map f⟩ : Pass).reports (step.1.pathIn directory)) own
    _ = (⟨g, [f step]⟩ : Pass).reports (step.1.pathIn directory) := (reports_filter g [f step] _).symm

/-- What a program itself gives is not among the failures. -/
theorem filter_failures_eq_nil (sound : ∀ d ∈ g.diagnostics, d.code ≠ "RG100") (path : String) :
    (g.diagnostics.filter fun d => d.code == "RG100" && d.location == path) = [] := by
  apply List.filter_eq_nil_iff.mpr
  intro d mem
  simp [sound d mem]

/-- What is reported of a single outcome, if the program itself gives no failure. -/
theorem reports_singleton (sound : ∀ d ∈ g.diagnostics, d.code ≠ "RG100") (outcome : FileOutcome) (path : String) :
    (⟨g, [outcome]⟩ : Pass).reports path =
      match outcome with
      | .written other => ([other].filter (· == path), [], [])
      | .removed other => ([], [other].filter (· == path), [])
      | .absent => ([], [], [])
      | .failed d => ([], [], [d].filter fun d => d.code == "RG100" && d.location == path) := by
  have quiet := filter_failures_eq_nil sound path
  cases outcome <;> simp only [Pass.reports, Pass.written, Pass.removed, Pass.diagnostics, List.filter_append, quiet] <;>
    rfl

/-!
### One kind
-/

namespace Workspace

/-- What is left in a place since the directory was made was there before, or was made. -/
theorem keeps_of_readied {artifacts : List Artifact} {place : List String}
    (same : after.get? place = (w.readied directory artifacts).get? place) : w.Keeps directory place after := by
  rw [readied] at same
  split at same
  case isTrue => exact .inl same
  case isFalse =>
      rcases (w.growsTo_makeDirectories directory).get? place with unmade | ⟨none, made⟩
      · exact .inl (same.trans unmade)
      · exact .inr ⟨none, same.trans made, made⟩

theorem keepsTarget_of_readied {artifacts : List Artifact}
    (kept : (w.readied directory artifacts).SameAt path after) : w.KeepsTarget directory path after := by
  intro place located
  have located : after.locate path = .ok place := by
    rcases located with located | located
    · rw [kept.located]
      exact (w.growsTo_readied directory artifacts).locate_eq located
    · exact located
  exact keeps_of_readied (kept.found place located)

end Workspace

/-- A kind whose outcome tells what has become of its file is settled. -/
theorem settled_of_tells {pass : Pass} (sound : ∀ d ∈ g.diagnostics, d.code ≠ "RG100")
    (tells : outcome.Tells directory (w.readied directory g.artifacts) after kind (textOf g.artifacts kind))
    (reports : pass.reports (kind.pathIn directory) = (⟨g, [outcome]⟩ : Pass).reports (kind.pathIn directory)) :
    Settled directory w pass after kind (g.artifact? kind) := by
  have grows := w.growsTo_readied directory g.artifacts
  rw [reports_singleton sound] at reports
  rw [textOf_eq] at tells
  cases produced : g.artifact? kind with
  | some a =>
      rw [produced] at tells
      cases tells with
      | written read => exact .written a (by simpa using reports) read
      | notWritten cause kept =>
          exact .notWritten a cause (by simpa [Diagnostic.code, Finding.code] using reports)
            (Workspace.keepsTarget_of_readied kept)
  | none =>
      rw [produced] at tells
      cases tells with
      | removed located found gone =>
          apply Settled.removed _ _ gone
          · simpa using reports
          · rw [Workspace.hadFile, located]
            dsimp only
            rw [← grows.hasFileAt_eq, Workspace.hasFileAt, found]
      | absent missing still =>
          exact .absent (by simpa using reports) (grows.lookup_missing missing) still
      | notRemoved cause kept =>
          exact .notRemoved cause (by simpa [Diagnostic.code, Finding.code] using reports)
            (Workspace.keepsTarget_of_readied kept)

end

/-!
### One pass
-/

/-- For every program, all settings and whatever is found in the file system, what fails in the output directory is
    told once and concerns nothing else. -/
theorem failures_contained (directory : String) (w : Workspace) (p : Program) (o : Options) :
    Contained directory ((runPass p { o with outputDirectory := none } : StateM Workspace Pass).run w).1 w
      (w.pass directory p o).1 (w.pass directory p o).2 := by
  obtain ⟨after, published, settles⟩ := w.publish_settles directory (nodup_kinds p o)
  rw [Workspace.pass_of_publish published]
  let steps := stepsFor (generate p o).artifacts
  let alone := (w.readied directory (generate p o).artifacts).alone directory
  have sound : ∀ d ∈ (generate p o).diagnostics, d.code ≠ "RG100" := fun d mem => code_ne_of_mem_scan mem
  have tells : ∀ step ∈ steps, (alone step).Tells directory _ after step.1 step.2 := settles.tells
  constructor
  case generation => rfl
  case diagnostics =>
      have failures : ((steps.map alone).filterMap FileOutcome.diagnostic?).filter (fun d => d.code != "RG100") = [] := by
        apply List.filter_eq_nil_iff.mpr
        intro d mem
        obtain ⟨outcome, among, failed⟩ := List.mem_filterMap.mp mem
        obtain ⟨step, stepped, rfl⟩ := List.mem_map.mp among
        simp [(tells step stepped).code_eq failed]
      have own : (generate p o).diagnostics.filter (fun d => d.code != "RG100") = (generate p o).diagnostics := by
        apply List.filter_eq_self.mpr
        intro d mem
        simpa using sound d mem
      rw [Pass.diagnostics, List.filter_append, failures, own]
      rfl
  case settled =>
      intro kind
      have mem := mem_stepsFor (generate p o).artifacts kind
      exact settled_of_tells sound (tells _ mem) (reports_step (nodup_stepsFor (nodup_kinds p o)) tells mem)
  case noOther =>
      intro path other
      have none : ((steps.map alone).filter fun outcome => outcome.path? == some path) = [] := by
        apply List.filter_eq_nil_iff.mpr
        intro outcome mem about
        obtain ⟨step, stepped, rfl⟩ := List.mem_map.mp mem
        exact other step.1 ((tells step stepped).path?_eq (beq_iff_eq.mp about))
      rw [reports_filter, none]
      simp only [Pass.reports, Pass.written, Pass.removed, Pass.diagnostics, List.filter_append,
        filter_failures_eq_nil sound path]
      rfl
  case alone => rfl
  case others =>
      intro place elsewhere
      apply Workspace.keeps_of_readied
      apply settles.others
      intro step mem done
      apply elsewhere step.1
      have among : alone step ∈ steps.map alone := List.mem_map_of_mem mem
      rcases done with written | removed
      · exact List.mem_append_left _ (List.mem_filterMap.mpr ⟨_, among, congrArg FileOutcome.written? written⟩)
      · exact List.mem_append_right _ (List.mem_filterMap.mpr ⟨_, among, congrArg FileOutcome.removed? removed⟩)
  case workingDirectory => exact settles.workingDirectory.trans (w.growsTo_readied _ _).workingDirectory

/-- What is in the place of a file that could not be written need not be what was there. The way to the output
    directory may lead through that place, and the directory that is made there stays. -/
theorem failed_write_leaves_directory :
    let w : Workspace := {}
    let directory := "route_groups.rs/.."
    let path := ArtifactKind.registration.pathIn directory
    let done := w.pass directory loneGroup .standard
    done.1.reports path = ([], [], [⟨.notWritten FileFault.isDirectory.message, path⟩]) ∧
      done.2.locate path = .ok ["route_groups.rs"] ∧
      ¬ done.2.get? ["route_groups.rs"] = w.get? ["route_groups.rs"] := by
  decide +kernel

end RouteScribe
