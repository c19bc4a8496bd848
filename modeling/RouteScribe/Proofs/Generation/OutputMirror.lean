/-
Module: RouteScribe.Proofs.Generation.OutputMirror
Layer: Proofs
Purpose: The output directory mirrors the last pass. However many passes have gone into a directory before, and
  whatever they left in it, a pass leaves the files of its artifacts there and no files of other kinds,
  reports just that, and touches nothing else.
Imports: RouteScribe.Proofs.Artifact.ProducedFiles, RouteScribe.Proofs.Files.Publishing,
  RouteScribe.Proofs.Routes.MarkerAccount
Trusted boundary: human-reviewed spec
Main exports: Workspace.pass, Workspace.afterPasses, Mirrors, Workspace.Hosts.pass, outputDirectory_mirrors
Open obligations: none
-/
import RouteScribe.Proofs.Artifact.ProducedFiles
import RouteScribe.Proofs.Files.Publishing
import RouteScribe.Proofs.Routes.MarkerAccount

namespace RouteScribe

/-!
### The specification
-/

namespace Workspace

/-- A pass into an output directory. -/
def pass (w : Workspace) (directory : String) (p : Program) (o : Options) : Pass × Workspace :=
  (runPass p { o with outputDirectory := some directory } : StateM Workspace Pass).run w

/-- The workspace after passes into one output directory. -/
def afterPasses (w : Workspace) (directory : String) (passes : List (Program × Options)) : Workspace :=
  passes.foldl (fun w (p, o) => (w.pass directory p o).2) w

def hasFileAt (w : Workspace) (place : List String) : Bool :=
  match w.get? place with
  | some (.file _) => true
  | _ => false

/-- Whether there was a file before in the place to which a path leads now. -/
def hadFile (before now : Workspace) (path : String) : Bool :=
  match now.locate path with
  | .ok place => before.hasFileAt place
  | .error _ => false

end Workspace

/-- `Mirrors directory g before pass after` says that the pass yields `g`, and that its files in the directory
    are what there is of `g` afterwards. -/
structure Mirrors (directory : String) (g : Generation) (before : Workspace) (pass : Pass) (after : Workspace) :
    Prop where
  generation : pass.generation = g
  /-- The file of a kind has the text of the artifact, and is not there without one. -/
  contents : ∀ kind : ArtifactKind, after.read (kind.pathIn directory) =
    match g.artifact? kind with
    | some a => .ok a.content
    | none => .error .missing
  written : pass.written =
    (ArtifactKind.all.filter fun kind => (g.artifact? kind).isSome).map (·.pathIn directory)
  /-- A file is removed if it was there and its kind is missing now. -/
  removed : pass.removed =
    (ArtifactKind.all.filter fun kind =>
      (g.artifact? kind).isNone && before.hadFile after (kind.pathIn directory)).map (·.pathIn directory)
  noFailure : ∀ d ∈ pass.diagnostics, d.code ≠ "RG100"
  /-- In all other places there is what was there before, or a directory that leads to the output. -/
  others : ∀ place, (∀ kind : ArtifactKind, after.locate (kind.pathIn directory) ≠ .ok place) →
    after.get? place = before.get? place ∨
      before.get? place = none ∧ after.get? place = some .directory ∧
        (before.makeDirectories directory).1.get? place = some .directory
  workingDirectory : after.workingDirectory = before.workingDirectory

/-!
### What a pass yields
-/

section

variable {p : Program} {conv : Conventions}

theorem code_ne_of_mem_scanMethod {group : String} {m : Method} {f : Finding}
    (mem : f ∈ (scanMethod p conv group m).2) : f.code ≠ "RG100" := by
  obtain ⟨outcomes, account⟩ := exists_account p conv group m
  obtain ⟨rest, findings, others⟩ := account.order
  rw [findings] at mem
  rcases List.mem_append.mp mem with mem | mem
  · have known := code_of_mem_outcomeFindings account.settled mem
    simp only [Finding.isRefusal, Bool.or_eq_true, beq_iff_eq, or_assoc] at known
    rcases known with code | code | code <;> simp [code]
  · rcases others f mem with code | code <;> simp [code]

theorem code_of_mem_groupPrefix {attributes : List Attribute} {f : Finding}
    (mem : f ∈ (groupPrefix conv attributes).2) : f.code = "RG001" := by
  rw [groupPrefix] at mem
  split at mem
  case h_1 => cases mem
  case h_2 =>
      split at mem
      case h_1 => cases mem
      case h_2 => cases mem
      case h_3 =>
          rw [List.mem_singleton.mp mem]
          rfl

/-- What is found wrong with a program is not about files. -/
theorem code_ne_of_mem_scan {d : Diagnostic} (mem : d ∈ (scan p conv).diagnostics) : d.code ≠ "RG100" := by
  obtain ⟨group, isGroup, mem⟩ := List.mem_flatMap.mp mem
  obtain ⟨type, -, rfl⟩ := List.mem_map.mp isGroup
  rw [diagnostics_scanGroup] at mem
  rcases List.mem_append.mp mem with mem | mem
  · obtain ⟨f, found, rfl⟩ := List.mem_map.mp mem
    simp [Diagnostic.code, code_of_mem_groupPrefix found]
  · obtain ⟨m, -, mem⟩ := List.mem_flatMap.mp mem
    obtain ⟨f, found, rfl⟩ := List.mem_map.mp mem
    exact code_ne_of_mem_scanMethod found

end

/-!
### What is reported
-/

section

variable {artifacts : List Artifact} {directory : String} {names : List String} {w : Workspace}

/-- What becomes of the files in the steps for a list of artifacts, if the directory is at the end of `names`. -/
def outcomesOf (artifacts : List Artifact) (directory : String) (w : Workspace) (names : List String) :
    List FileOutcome :=
  (stepsFor artifacts).map fun step => outcomeOf directory step (w.get? (step.1.placeIn names))

theorem outcomesOf_eq : outcomesOf artifacts directory w names =
    artifacts.map (fun a => .written (a.kind.pathIn directory)) ++
      (missingKinds artifacts).map fun kind => removalOf directory kind (w.get? (kind.placeIn names)) := by
  rw [outcomesOf, stepsFor, List.map_append, List.map_map, List.map_map]
  rfl

theorem written_outcomesOf : (outcomesOf artifacts directory w names).filterMap FileOutcome.written? =
    (artifacts.map (·.kind)).map (·.pathIn directory) := by
  have writing (path : String) : (FileOutcome.written path).written? = some path := rfl
  have removal (kind : ArtifactKind) (before : Option Entry) :
      (removalOf directory kind before).written? = none := by
    unfold removalOf
    split <;> rfl
  simp [outcomesOf_eq, List.filterMap_append, List.filterMap_map, writing, removal]

theorem removed_outcomesOf : (outcomesOf artifacts directory w names).filterMap FileOutcome.removed? =
    ((missingKinds artifacts).filter fun kind => w.hasFileAt (kind.placeIn names)).map (·.pathIn directory) := by
  have writing (path : String) : (FileOutcome.written path).removed? = none := rfl
  have removal (kind : ArtifactKind) : (removalOf directory kind (w.get? (kind.placeIn names))).removed? =
      if w.hasFileAt (kind.placeIn names) then some (kind.pathIn directory) else none := by
    cases found : w.get? (kind.placeIn names) with
    | none => simp [removalOf, Workspace.hasFileAt, found, FileOutcome.removed?]
    | some entry => cases entry <;> simp [removalOf, Workspace.hasFileAt, found, FileOutcome.removed?]
  rw [← List.filterMap_eq_map', List.filterMap_filter]
  simp [outcomesOf_eq, List.filterMap_append, List.filterMap_map, writing, removal]

theorem failures_outcomesOf : (outcomesOf artifacts directory w names).filterMap FileOutcome.diagnostic? = [] := by
  have writing (path : String) : (FileOutcome.written path).diagnostic? = none := rfl
  have removal (kind : ArtifactKind) (before : Option Entry) :
      (removalOf directory kind before).diagnostic? = none := by
    unfold removalOf
    split <;> rfl
  simp [outcomesOf_eq, List.filterMap_append, List.filterMap_map, writing, removal]

end

/-!
### One pass
-/

theorem missingKinds_eq (g : Generation) :
    missingKinds g.artifacts = ArtifactKind.all.filter fun kind => (g.artifact? kind).isNone := by
  refine List.filter_congr fun kind _ => ?_
  rw [Generation.artifact?, Bool.eq_iff_iff]
  simp

theorem textOf_eq (g : Generation) (kind : ArtifactKind) :
    textOf g.artifacts kind = (g.artifact? kind).map (·.content) := rfl

namespace Workspace

variable {w w' : Workspace} {directory : String} {names : List String} {p : Program} {o : Options}

/-- Where directories are made, there was no file. -/
theorem GrowsTo.hasFileAt_eq (grows : w.GrowsTo w') (place : List String) : w'.hasFileAt place = w.hasFileAt place := by
  rcases grows.get? place with same | ⟨none, made⟩
  · rw [hasFileAt, hasFileAt, same]
  · rw [hasFileAt, hasFileAt, none, made]

/-- In a directory that has been brought in line, the artifacts are mirrored. -/
theorem Brings.mirrors
    (brings : (w.makeDirectories directory).1.Brings directory names (stepsFor (generate p o).artifacts) w') :
    Mirrors directory (generate p o) w
      ⟨generate p o, outcomesOf (generate p o).artifacts directory (w.makeDirectories directory).1 names⟩ w' where
  generation := rfl
  contents := by
    intro kind
    have found := lookup_pathIn (brings.opened.locate_eq kind)
    rw [brings.targets _ (mem_stepsFor _ kind), textOf_eq] at found
    rw [read, found]
    cases (generate p o).artifact? kind <;> rfl
  written := by
    rw [Pass.written, written_outcomesOf, kinds_artifacts]
  removed := by
    have hadFile (kind : ArtifactKind) : w.hadFile w' (kind.pathIn directory) =
        (w.makeDirectories directory).1.hasFileAt (kind.placeIn names) := by
      rw [Workspace.hadFile, brings.opened.locate_eq kind]
      exact ((w.growsTo_makeDirectories directory).hasFileAt_eq _).symm
    rw [Pass.removed, removed_outcomesOf, missingKinds_eq, List.filter_filter]
    simp only [hadFile, Bool.and_comm]
  noFailure := by
    intro d mem
    rw [Pass.diagnostics, failures_outcomesOf, List.append_nil] at mem
    exact code_ne_of_mem_scan mem
  others := by
    intro place elsewhere
    have kept := brings.others place fun step _ same => elsewhere step.1 (same ▸ brings.opened.locate_eq step.1)
    rcases (w.growsTo_makeDirectories directory).get? place with same | ⟨none, made⟩
    · exact .inl (kept.trans same)
    · exact .inr ⟨none, kept.trans made, made⟩
  workingDirectory := brings.workingDirectory.trans (w.growsTo_makeDirectories directory).workingDirectory

/-- Where there is nothing to write and nothing is found, nothing changes. -/
theorem mirrors_of_missing (nothing : (generate p o).artifacts = [])
    (missing : ∀ kind : ArtifactKind, w.lookup (kind.pathIn directory) = .error .missing) :
    Mirrors directory (generate p o) w ⟨generate p o, ArtifactKind.all.map fun _ => .absent⟩ w where
  generation := rfl
  contents := by
    intro kind
    rw [read, missing kind, Generation.artifact?, nothing]
    rfl
  written := by
    simp only [Generation.artifact?, nothing]
    rfl
  removed := by
    have hadFile (kind : ArtifactKind) : w.hadFile w (kind.pathIn directory) = false := by
      rw [Workspace.hadFile]
      cases located : w.locate (kind.pathIn directory) with
      | error fault => rfl
      | ok place =>
          have found := lookup_pathIn located
          rw [missing kind] at found
          cases entry : w.get? place with
          | none => simp [hasFileAt, entry]
          | some entry' => simp [entry] at found
    simp only [hadFile, Bool.and_false]
    rfl
  noFailure := by
    intro d mem
    have found : d ∈ (scan p o.conventions).diagnostics ++ [] := mem
    rw [List.append_nil] at found
    exact code_ne_of_mem_scan found
  others := fun _ _ => .inl rfl
  workingDirectory := rfl

theorem pass_of_publish {outcomes : List FileOutcome}
    (published : (publish directory (generate p o).artifacts : StateM Workspace _).run w = (outcomes, w')) :
    w.pass directory p o = (⟨generate p o, outcomes⟩, w') := by
  change (publish directory (generate p o).artifacts >>= fun outcomes =>
    pure ⟨generate p o, outcomes⟩ : StateM Workspace Pass).run w = _
  rw [run_bind, published]
  rfl

/-- A pass leaves the directory in line with its artifacts, and ready for the next pass. -/
theorem Hosts.pass (hosts : w.Hosts directory) (p : Program) (o : Options) :
    Mirrors directory (generate p o) w (w.pass directory p o).1 (w.pass directory p o).2 ∧
      (w.pass directory p o).2.Hosts directory := by
  rcases hosts.publish (nodup_kinds p o) with ⟨names, w', published, brings⟩ | ⟨nothing, published, missing⟩
  · rw [pass_of_publish published]
    exact ⟨brings.mirrors, brings.opened.hosts⟩
  · rw [pass_of_publish published]
    exact ⟨mirrors_of_missing nothing missing, hosts⟩

/-!
### Many passes
-/

theorem Hosts.afterPasses (hosts : w.Hosts directory) (passes : List (Program × Options)) :
    (w.afterPasses directory passes).Hosts directory := by
  induction passes generalizing w with
  | nil => exact hosts
  | cons first passes ih => exact ih (hosts.pass first.1 first.2).2

end Workspace

/-- Whatever passes have gone into an output directory before, the next one leaves the files of its artifacts
    there and none of other kinds, says what it wrote and removed, fails at nothing and touches nothing else.
    What can be read there depends on this pass alone, not on the passes before or on where they began. -/
theorem outputDirectory_mirrors (directory : String) (w : Workspace) (hosts : w.Hosts directory)
    (earlier : List (Program × Options)) (p : Program) (o : Options) :
    Mirrors directory (generate p o) (w.afterPasses directory earlier)
        ((w.afterPasses directory earlier).pass directory p o).1
        ((w.afterPasses directory earlier).pass directory p o).2 ∧
      ∀ (w' : Workspace) (earlier' : List (Program × Options)), w'.Hosts directory →
        ∀ kind : ArtifactKind,
          ((w'.afterPasses directory earlier').pass directory p o).2.read (kind.pathIn directory) =
            ((w.afterPasses directory earlier).pass directory p o).2.read (kind.pathIn directory) := by
  have mirrors := ((hosts.afterPasses earlier).pass p o).1
  refine ⟨mirrors, ?_⟩
  -- both can be read off what the pass yields, which is the same
  intro w' earlier' hosts' kind
  have mirrors' := ((hosts'.afterPasses earlier').pass p o).1
  rw [mirrors'.contents kind, mirrors.contents kind]

/-- A program of one group without routes. -/
def loneGroup : Program := .ofDeclarations [{ path := "a::B", attributes := [⟨"routegen::RouteGroup", [], []⟩] }]

/-- A pass that yields nothing, after one that yields a file, in a directory with a file of its own. What is left
    to read is what there would be had nothing gone before. -/
theorem outputDirectory_mirrors_stale :
    let w : Workspace := { entries := [(["src"], .directory), (["src", "route_table.rs"], .file "old")] }
    let before := w.afterPasses "src/gen/.." [(loneGroup, .standard)]
    let done := before.pass "src/gen/.." .empty .standard
    let fresh : Workspace := {}
    (w.Hosts "src/gen/.." ∧ Mirrors "src/gen/.." (generate .empty .standard) before done.1 done.2) ∧
      done.1.removed = ["src/gen/../route_groups.rs"] ∧
      fresh.Hosts "src/gen/.." ∧
        ∀ kind : ArtifactKind, (fresh.pass "src/gen/.." .empty .standard).2.read (kind.pathIn "src/gen/..") =
          done.2.read (kind.pathIn "src/gen/..") := by
  intro w before done fresh
  have hosts : w.Hosts "src/gen/.." := by
    refine ⟨by decide, by decide +kernel, ?_⟩
    rintro (_ | _ | _)
    · exact .inl (by decide +kernel)
    · exact .inr ⟨["src", "route_table.rs"], "old", by decide +kernel⟩
    · exact .inl (by decide +kernel)
  have freshHosts : fresh.Hosts "src/gen/.." := by
    refine ⟨by decide, by decide +kernel, ?_⟩
    rintro (_ | _ | _) <;> exact .inl (by decide +kernel)
  have mirrors := outputDirectory_mirrors "src/gen/.." w hosts [(loneGroup, .standard)] .empty .standard
  exact ⟨⟨hosts, mirrors.1⟩, by decide +kernel, freshHosts, mirrors.2 fresh [] freshHosts⟩

/-- It is not enough that there is room before the directory is made. When its own path leads through the place
    of a file, making it puts a directory there, and the file cannot be written. -/
theorem outputDirectory_in_its_way :
    let w : Workspace := {}
    let directory := "route_groups.rs/.."
    let done := w.pass directory loneGroup .standard
    ((w.makeDirectories directory).2 = .ok () ∧ ∀ kind : ArtifactKind, w.HasRoomFor (kind.pathIn directory)) ∧
      (((generate loneGroup .standard).artifact? .registration).isSome = true ∧ done.1.written = [] ∧
        done.1.diagnostics.map (·.code) = ["RG100"]) ∧
      ¬ Mirrors directory (generate loneGroup .standard) w done.1 done.2 := by
  intro w directory done
  have code : done.1.diagnostics.map (·.code) = ["RG100"] := by decide +kernel
  refine ⟨⟨by decide +kernel, ?_⟩, ⟨by decide +kernel, by decide +kernel, code⟩, ?_⟩
  · rintro (_ | _ | _) <;> exact .inl (by decide +kernel)
  · intro mirrors
    have found : "RG100" ∈ done.1.diagnostics.map (·.code) := code ▸ List.mem_singleton_self _
    obtain ⟨d, mem, same⟩ := List.mem_map.mp found
    exact mirrors.noFailure d mem same

end RouteScribe
