/-
Module: RouteScribe.Proofs.Files.Publishing
Layer: Proofs
Purpose: A list of artifacts brought to an output directory. One step for each kind of artifact writes its file or
  removes it; since the steps are about different places, each finds what was there before, and what it
  leaves stays. A directory that can be made is made by the first file that is written.
Imports: Mathlib.Data.List.Nodup, RouteScribe.Proofs.Files.OutputDirectory
Trusted boundary: human-reviewed spec
Main exports: stepsFor, outcomeAt, leftAt, Workspace.Attempts, Workspace.LeadsTo.mapM_bring, Workspace.Hosts,
  Workspace.Brings, Workspace.IsOpen.publish, Workspace.Hosts.publish
Open obligations: none
-/
import Mathlib.Data.List.Nodup
import RouteScribe.Proofs.Files.OutputDirectory

namespace RouteScribe

/-!
### The steps
-/

/-- The text that the file of a kind is to have, if the kind is among the artifacts. -/
def textOf (artifacts : List Artifact) (kind : ArtifactKind) : Option String :=
  (artifacts.find? (·.kind == kind)).map (·.content)

/-- What is to be done for a list of artifacts: for each kind, the text that its file is to have. -/
def stepsFor (artifacts : List Artifact) : List (ArtifactKind × Option String) :=
  artifacts.map (fun a => (a.kind, some a.content)) ++ (missingKinds artifacts).map fun kind => (kind, none)

/-- Bring the file of a kind in line. -/
def bring (directory : String) (step : ArtifactKind × Option String) : StateM Workspace FileOutcome :=
  match step.2 with
  | some text => writeArtifact directory ⟨step.1, text⟩
  | none => removeStale directory step.1

/-- What becomes of a file in a step, if `before` was in its place. -/
def outcomeOf (directory : String) (step : ArtifactKind × Option String) (before : Option Entry) : FileOutcome :=
  match step.2 with
  | some _ => .written (step.1.pathIn directory)
  | none => removalOf directory step.1 before

/-- What becomes of a file in a step that may be refused. -/
def outcomeAt (directory : String) (step : ArtifactKind × Option String) (before : Option Entry) : FileOutcome :=
  match step.1.refusal? directory before with
  | some fault =>
    .failed ⟨if step.2.isSome then .notWritten fault.message else .notRemoved fault.message, step.1.pathIn directory⟩
  | none => outcomeOf directory step before

/-- What is in the place of a file after a step that may be refused. -/
def leftAt (directory : String) (step : ArtifactKind × Option String) (before : Option Entry) : Option Entry :=
  match step.1.refusal? directory before with
  | some _ => before
  | none => step.2.map .file

theorem publish_eq (directory : String) (artifacts : List Artifact) :
    publish directory artifacts = (stepsFor artifacts).mapM (bring directory) := by
  rw [stepsFor, List.mapM_append, List.mapM_map, List.mapM_map]
  rfl

section

variable {artifacts : List Artifact} {kind : ArtifactKind} {step : ArtifactKind × Option String}

theorem mem_missingKinds : kind ∈ missingKinds artifacts ↔ textOf artifacts kind = none := by
  simp [missingKinds, textOf, kind.mem_all]

/-- There is a step for each kind, -/
theorem mem_stepsFor (artifacts : List Artifact) (kind : ArtifactKind) :
    (kind, textOf artifacts kind) ∈ stepsFor artifacts := by
  cases found : artifacts.find? (·.kind == kind) with
  | none =>
      have none : textOf artifacts kind = none := by rw [textOf, found]; rfl
      rw [none]
      exact List.mem_append_right _ (List.mem_map_of_mem (mem_missingKinds.mpr none))
  | some a =>
      have same : a.kind = kind := by simpa using List.find?_some found
      have some : textOf artifacts kind = some a.content := by rw [textOf, found]; rfl
      rw [some, ← same]
      exact List.mem_append_left _ (List.mem_map_of_mem (List.mem_of_find?_eq_some found))

/-- and only one, if the artifacts are of different kinds. -/
theorem nodup_stepsFor (distinct : (artifacts.map (·.kind)).Nodup) : ((stepsFor artifacts).map Prod.fst).Nodup := by
  have kinds : (stepsFor artifacts).map Prod.fst = artifacts.map (·.kind) ++ missingKinds artifacts := by
    simp [stepsFor, Function.comp_def]
  rw [kinds]
  refine List.Nodup.append distinct (List.Nodup.filter _ (by decide)) ?_
  intro kind mem missing
  obtain ⟨a, found, rfl⟩ := List.mem_map.mp mem
  have none := List.find?_eq_none.mp (Option.map_eq_none_iff.mp (mem_missingKinds.mp missing)) a found
  simp at none

end

namespace Workspace

variable {w w' : Workspace} {directory : String} {names : List String}

/-!
### All steps
-/

/-- The workspace with a file as a step is to leave it. -/
def settle (w : Workspace) (names : List String) (step : ArtifactKind × Option String) : Workspace :=
  match step.2 with
  | some text => w.put (step.1.placeIn names) (.file text)
  | none => w.erase (step.1.placeIn names)

theorem sets_settle (w : Workspace) (names : List String) (step : ArtifactKind × Option String) :
    w.Sets (step.1.placeIn names) (step.2.map .file) (w.settle names step) := by
  obtain ⟨kind, text⟩ := step
  cases text with
  | some text => exact ⟨rfl, w.get?_put kind.placeIn_ne_nil _⟩
  | none => exact ⟨rfl, w.get?_erase kind.placeIn_ne_nil⟩

/-- A step in a directory that is there is done unless it is refused. -/
theorem LeadsTo.run_bring (leads : w.LeadsTo directory names) (step : ArtifactKind × Option String) :
    (bring directory step).run w =
      (outcomeAt directory step (w.get? (step.1.placeIn names)),
        if (step.1.refusal? directory (w.get? (step.1.placeIn names))).isSome then w else w.settle names step) := by
  obtain ⟨kind, text⟩ := step
  cases text with
  | some text =>
      rw [bring, leads.writeArtifact, outcomeAt]
      cases kind.refusal? directory (w.get? (kind.placeIn names)) <;> rfl
  | none =>
      rw [bring, leads.removeStale, outcomeAt]
      cases kind.refusal? directory (w.get? (kind.placeIn names)) <;> rfl

/-- It is about one file, and leaves the directory there. -/
theorem LeadsTo.bring (leads : w.LeadsTo directory names) (step : ArtifactKind × Option String) :
    ∃ w', (bring directory step).run w = (outcomeAt directory step (w.get? (step.1.placeIn names)), w') ∧
      w.Sets (step.1.placeIn names) (leftAt directory step (w.get? (step.1.placeIn names))) w' ∧
      w'.LeadsTo directory names := by
  refine ⟨_, leads.run_bring step, ?_⟩
  cases refused : step.1.refusal? directory (w.get? (step.1.placeIn names)) with
  | some fault =>
      rw [leftAt, refused]
      exact ⟨⟨rfl, (Function.update_eq_self _ _).symm⟩, leads⟩
  | none =>
      rw [leftAt, refused]
      have sets := w.sets_settle names step
      exact ⟨sets, leads.sets sets (ArtifactKind.refusal?_eq_none.mp refused).2⟩

/-- `w.Attempts directory names steps w'` says that `w'` is `w` with the files as the steps can leave them. -/
structure Attempts (w : Workspace) (directory : String) (names : List String)
    (steps : List (ArtifactKind × Option String)) (w' : Workspace) : Prop where
  leads : w'.LeadsTo directory names
  workingDirectory : w'.workingDirectory = w.workingDirectory
  targets : ∀ step ∈ steps,
    w'.get? (step.1.placeIn names) = leftAt directory step (w.get? (step.1.placeIn names))
  others : ∀ place, (∀ step ∈ steps, place ≠ step.1.placeIn names) → w'.get? place = w.get? place

theorem LeadsTo.mapM_bring (leads : w.LeadsTo directory names) {steps : List (ArtifactKind × Option String)}
    (distinct : (steps.map Prod.fst).Nodup) :
    ∃ w', (steps.mapM (RouteScribe.bring directory)).run w =
        (steps.map fun step => outcomeAt directory step (w.get? (step.1.placeIn names)), w') ∧
      w.Attempts directory names steps w' := by
  induction steps generalizing w with
  | nil => exact ⟨w, rfl, leads, rfl, nofun, fun _ _ => rfl⟩
  | cons step steps ih =>
      obtain ⟨fresh, distinct⟩ := List.nodup_cons.mp distinct
      obtain ⟨next, brought, sets, leads⟩ := leads.bring step
      obtain ⟨w', run, attempts⟩ := ih leads distinct
      -- the later steps are about other places: they find what was there at the start, and leave this one alone
      have apart (other : ArtifactKind × Option String) (mem : other ∈ steps) :
          other.1.placeIn names ≠ step.1.placeIn names := by
        intro same
        exact fresh (ArtifactKind.placeIn_inj same ▸ List.mem_map_of_mem mem)
      have before (other : ArtifactKind × Option String) (mem : other ∈ steps) :
          next.get? (other.1.placeIn names) = w.get? (other.1.placeIn names) := by
        rw [sets.get?, Function.update_of_ne (apart other mem)]
      refine ⟨w', ?_, attempts.leads, attempts.workingDirectory.trans sets.workingDirectory, ?_, ?_⟩
      · have found : (steps.map fun other => outcomeAt directory other (next.get? (other.1.placeIn names))) =
            steps.map fun other => outcomeAt directory other (w.get? (other.1.placeIn names)) := by
          apply List.map_congr_left
          intro other mem
          rw [before other mem]
        rw [List.mapM_cons, run_bind, brought, run_bind, run, found]
        rfl
      · intro other mem
        rcases List.mem_cons.mp mem with rfl | mem
        · have kept := attempts.others _ fun later mem => (apart later mem).symm
          rw [kept, sets.get?, Function.update_self]
        · rw [attempts.targets other mem, before other mem]
      · intro place elsewhere
        have kept := attempts.others place fun other mem => elsewhere other (List.mem_cons_of_mem _ mem)
        rw [kept, sets.get?, Function.update_of_ne (elsewhere step List.mem_cons_self)]

/-!
### Open directories
-/

/-- `w.Brings directory names steps w'` says that `w'` is `w` with the files as the steps are to leave them. -/
structure Brings (w : Workspace) (directory : String) (names : List String)
    (steps : List (ArtifactKind × Option String)) (w' : Workspace) : Prop where
  opened : w'.IsOpen directory names
  workingDirectory : w'.workingDirectory = w.workingDirectory
  targets : ∀ step ∈ steps, w'.get? (step.1.placeIn names) = step.2.map .file
  others : ∀ place, (∀ step ∈ steps, place ≠ step.1.placeIn names) → w'.get? place = w.get? place

/-- In an open directory nothing is refused. -/
theorem IsOpen.refusal?_eq_none (opened : w.IsOpen directory names) (kind : ArtifactKind) :
    kind.refusal? directory (w.get? (kind.placeIn names)) = none :=
  ArtifactKind.refusal?_eq_none.mpr ⟨opened.sound kind, opened.room kind⟩

/-- What is attempted in an open directory is done. -/
theorem Attempts.brings {steps : List (ArtifactKind × Option String)}
    (attempts : w.Attempts directory names steps w') (opened : w.IsOpen directory names) :
    w.Brings directory names steps w' := by
  have targets (step : ArtifactKind × Option String) (mem : step ∈ steps) :
      w'.get? (step.1.placeIn names) = step.2.map .file := by
    rw [attempts.targets step mem, leftAt, opened.refusal?_eq_none step.1]
  refine ⟨⟨?_, attempts.leads, opened.sound, ?_⟩, attempts.workingDirectory, targets, attempts.others⟩
  · rw [attempts.workingDirectory, attempts.others _, opened.working]
    intro step _ same
    exact opened.room step.1 (same ▸ opened.working)
  · intro kind found
    by_cases stepped : ∃ step ∈ steps, kind.placeIn names = step.1.placeIn names
    · obtain ⟨step, mem, same⟩ := stepped
      rw [same, targets step mem] at found
      cases text : step.2 <;> simp [text] at found
    · push Not at stepped
      rw [attempts.others _ stepped] at found
      exact opened.room kind found

theorem IsOpen.mapM_bring (opened : w.IsOpen directory names) {steps : List (ArtifactKind × Option String)}
    (distinct : (steps.map Prod.fst).Nodup) :
    ∃ w', (steps.mapM (RouteScribe.bring directory)).run w =
        (steps.map fun step => outcomeOf directory step (w.get? (step.1.placeIn names)), w') ∧
      w.Brings directory names steps w' := by
  obtain ⟨w', run, attempts⟩ := opened.leads.mapM_bring distinct
  have allowed (step : ArtifactKind × Option String) :
      outcomeAt directory step (w.get? (step.1.placeIn names)) =
        outcomeOf directory step (w.get? (step.1.placeIn names)) := by
    rw [outcomeAt, opened.refusal?_eq_none step.1]
  refine ⟨w', ?_, attempts.brings opened⟩
  simpa only [allowed] using run

/-- An open directory gets exactly the artifacts. -/
theorem IsOpen.publish (opened : w.IsOpen directory names) {artifacts : List Artifact}
    (distinct : (artifacts.map (·.kind)).Nodup) :
    ∃ w', (publish directory artifacts : StateM Workspace _).run w =
        ((stepsFor artifacts).map fun step => outcomeOf directory step (w.get? (step.1.placeIn names)), w') ∧
      w.Brings directory names (stepsFor artifacts) w' := by
  rw [publish_eq]
  exact opened.mapM_bring (nodup_stepsFor distinct)

/-!
### Directories that can be made
-/

/-- `w.HasRoomFor path` says that nothing is found under a path but a file, if anything. -/
def HasRoomFor (w : Workspace) (path : String) : Prop :=
  w.lookup path = .error .missing ∨ ∃ place text, w.lookup path = .ok (place, .file text)

/-- `w.Hosts directory` says that a directory is there or can be made, and that then there is room in it for
    the files of all kinds. -/
structure Hosts (w : Workspace) (directory : String) : Prop where
  /-- Paths are followed from a directory that is there. -/
  working : w.get? w.workingDirectory = some .directory
  made : (w.makeDirectories directory).2 = .ok ()
  room : ∀ kind : ArtifactKind, (w.makeDirectories directory).1.HasRoomFor (kind.pathIn directory)

variable {kind : ArtifactKind}

theorem HasRoomFor.sound {path : String} (filled : path ≠ "") (room : w.HasRoomFor path) :
    pathFault? path = none := by
  cases fault : pathFault? path with
  | none => rfl
  | some fault' =>
      have refused : w.lookup path = .error fault' := by
        rw [lookup, if_neg filled, locate, fault]
      have notMissing : fault' ≠ .missing := by
        rintro rfl
        exact pathFault?_ne_missing path fault
      rcases room with missing | ⟨place, text, found⟩
      · rw [refused] at missing
        exact absurd (Except.error.inj missing) notMissing
      · simp [refused] at found

/-- Once it is made, the directory is open. -/
theorem Hosts.isOpen (hosts : w.Hosts directory) : ∃ names, (w.makeDirectories directory).1.IsOpen directory names := by
  have grows := w.growsTo_makeDirectories directory
  obtain ⟨names, leads⟩ := leadsTo_makeDirectories hosts.working (Prod.ext rfl hosts.made)
  have sound (kind : ArtifactKind) := (hosts.room kind).sound (kind.pathIn_ne_empty directory)
  refine ⟨names, ?_, leads, sound, ?_⟩
  · rw [grows.workingDirectory]
    exact grows.directory hosts.working
  · intro kind found
    have lookup := lookup_pathIn (leads.locate_pathIn (sound kind))
    rw [found] at lookup
    rcases hosts.room kind with missing | ⟨place, text, file⟩
    · simp [missing] at lookup
    · simp [file] at lookup

theorem IsOpen.hosts (opened : w.IsOpen directory names) : w.Hosts directory where
  working := opened.working
  made := by rw [opened.leads.makeDirectories_eq]
  room := by
    intro kind
    have lookup := lookup_pathIn (opened.locate_eq kind)
    rw [opened.leads.makeDirectories_eq]
    cases found : w.get? (kind.placeIn names) with
    | none =>
        rw [found] at lookup
        exact .inl lookup
    | some entry =>
        rw [found] at lookup
        cases entry with
        | directory => exact absurd found (opened.room kind)
        | file text => exact .inr ⟨_, text, lookup⟩

/-- A directory that can be made is there already, or nothing is found in it. -/
theorem Hosts.isOpen_or_missing (hosts : w.Hosts directory) :
    (∃ names, w.IsOpen directory names) ∨ ∀ kind : ArtifactKind, w.lookup (kind.pathIn directory) = .error .missing := by
  obtain ⟨names, opened⟩ := hosts.isOpen
  have grows := w.growsTo_makeDirectories directory
  have start := grows.startOf_eq directory
  have missing (kind : ArtifactKind)
      (nowhere : ((w.follow (w.startOf directory) (PathText.components directory)).bind fun there =>
        w.follow there [kind.fileName]) = .error .missing) :
      w.lookup (kind.pathIn directory) = .error .missing := by
    rw [lookup, if_neg (kind.pathIn_ne_empty directory), locate_pathIn (opened.sound kind), nowhere]
  rcases grows.follow (start ▸ opened.leads.follow_eq) with followed | followed
  · rcases grows.get? names with same | ⟨none, -⟩
    -- the directory is there
    · refine .inl ⟨names, hosts.working, ⟨?_, same ▸ opened.leads.found⟩, opened.sound, ?_⟩
      · rw [locate, opened.leads.pathFault?_eq_none]
        exact followed
      · intro kind found
        exact opened.room kind (grows.directory found)
    -- only the last one is missing
    · refine .inr fun kind => missing kind ?_
      rw [followed]
      simp [Except.bind, Workspace.follow, directoryFault?, none]
  · refine .inr fun kind => missing kind ?_
    rw [followed]
    rfl

theorem run_bind_congr {α β : Type} {x : StateM Workspace α} (same : x.run w = x.run w')
    (f : α → StateM Workspace β) : (x >>= f).run w = (x >>= f).run w' := by
  rw [run_bind, run_bind, same]

/-- The first file that is written makes the directory, as far as it can be made. -/
theorem run_writeArtifact (w : Workspace) (directory : String) (a : Artifact) :
    (writeArtifact directory a : StateM Workspace _).run w =
      (writeArtifact directory a : StateM Workspace _).run (w.makeDirectories directory).1 := by
  have replaced (path : String) :
      (replaceFile directory path a.content : StateM Workspace _).run w =
        (replaceFile directory path a.content : StateM Workspace _).run (w.makeDirectories directory).1 := by
    apply run_bind_congr
    rw [run_makeDirectories, run_makeDirectories, w.makeDirectories_again directory]
  exact run_bind_congr (replaced _) _

/-- Whatever else is written or removed finds the directory made. -/
theorem run_publish_cons (w : Workspace) (directory : String) (a : Artifact) (artifacts : List Artifact) :
    (publish directory (a :: artifacts) : StateM Workspace _).run w =
      (publish directory (a :: artifacts) : StateM Workspace _).run (w.makeDirectories directory).1 := by
  have written : ((a :: artifacts).mapM (writeArtifact directory) : StateM Workspace _).run w =
      ((a :: artifacts).mapM (writeArtifact directory) : StateM Workspace _).run (w.makeDirectories directory).1 := by
    rw [List.mapM_cons]
    exact run_bind_congr (w.run_writeArtifact directory a) _
  exact run_bind_congr written _

/-- Where no file is found, none is removed. -/
theorem run_mapM_removeStale_missing
    (missing : ∀ kind : ArtifactKind, w.lookup (kind.pathIn directory) = .error .missing)
    (kinds : List ArtifactKind) :
    (kinds.mapM (removeStale directory) : StateM Workspace _).run w = (kinds.map fun _ => .absent, w) := by
  induction kinds with
  | nil => rfl
  | cons kind kinds ih =>
      rw [List.mapM_cons, run_bind, run_removeStale_missing (missing kind), run_bind, ih]
      rfl

/-- Artifacts are brought to a directory that can be made as if it were there already, or else there is
    nothing to write and nothing to remove. -/
theorem Hosts.publish (hosts : w.Hosts directory) {artifacts : List Artifact}
    (distinct : (artifacts.map (·.kind)).Nodup) :
    (∃ names w', (publish directory artifacts : StateM Workspace _).run w =
        ((stepsFor artifacts).map fun step =>
          outcomeOf directory step ((w.makeDirectories directory).1.get? (step.1.placeIn names)), w') ∧
      (w.makeDirectories directory).1.Brings directory names (stepsFor artifacts) w') ∨
    artifacts = [] ∧
      (publish directory artifacts : StateM Workspace _).run w = (ArtifactKind.all.map fun _ => .absent, w) ∧
      ∀ kind : ArtifactKind, w.lookup (kind.pathIn directory) = .error .missing := by
  rcases hosts.isOpen_or_missing with ⟨names, opened⟩ | missing
  · refine .inl ⟨names, ?_⟩
    rw [opened.leads.makeDirectories_eq]
    exact opened.publish distinct
  · cases artifacts with
    -- nothing is written, so the directory is not even made
    | nil =>
        refine .inr ⟨rfl, ?_, missing⟩
        rw [RouteScribe.publish, List.mapM_nil, run_bind, run_bind]
        exact run_mapM_removeStale_missing missing ArtifactKind.all
    | cons a artifacts =>
        obtain ⟨names, opened⟩ := hosts.isOpen
        obtain ⟨w', run, brings⟩ := opened.publish distinct
        refine .inl ⟨names, w', ?_, brings⟩
        rw [run_publish_cons, run]

end Workspace

end RouteScribe
