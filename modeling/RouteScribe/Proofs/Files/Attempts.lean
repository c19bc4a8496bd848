/-
Module: RouteScribe.Proofs.Files.Attempts
Layer: Proofs
Purpose: A list of artifacts brought to an output directory of which nothing is known: it may not be there and may not
  be makeable, and there may be anything in the places of the files. Each step fares as it would alone, says
  what has become of its file, and changes nothing when it fails.
Imports: RouteScribe.Proofs.Files.Publishing
Trusted boundary: human-reviewed spec
Main exports: FileOutcome.Tells, Workspace.SameAt, Workspace.readied, Workspace.alone, Workspace.Settles,
  Workspace.publish_settles
Open obligations: none
-/
import RouteScribe.Proofs.Files.Publishing

namespace RouteScribe

/-!
### What an outcome tells
-/

/-- `before.SameAt path after` says that a path leads to the same place, and that the same is there. -/
structure Workspace.SameAt (before : Workspace) (path : String) (after : Workspace) : Prop where
  located : after.locate path = before.locate path
  found : ∀ place, after.locate path = .ok place → after.get? place = before.get? place

theorem Workspace.SameAt.refl (w : Workspace) (path : String) : w.SameAt path w := ⟨rfl, fun _ _ => rfl⟩

/-- What an outcome says about the file of a kind, which was to have a text or to be removed. -/
inductive FileOutcome.Tells (directory : String) (before after : Workspace) (kind : ArtifactKind) :
    Option String → FileOutcome → Prop where
  | written {text : String} (read : after.read (kind.pathIn directory) = .ok text) :
      Tells directory before after kind (some text) (.written (kind.pathIn directory))
  | notWritten {text : String} (cause : String) (kept : before.SameAt (kind.pathIn directory) after) :
      Tells directory before after kind (some text) (.failed ⟨.notWritten cause, kind.pathIn directory⟩)
  | removed {place : List String} {text : String} (located : after.locate (kind.pathIn directory) = .ok place)
      (found : before.get? place = some (.file text))
      (gone : after.lookup (kind.pathIn directory) = .error .missing) :
      Tells directory before after kind none (.removed (kind.pathIn directory))
  | absent (missing : before.lookup (kind.pathIn directory) = .error .missing)
      (still : after.lookup (kind.pathIn directory) = .error .missing) :
      Tells directory before after kind none .absent
  | notRemoved (cause : String) (kept : before.SameAt (kind.pathIn directory) after) :
      Tells directory before after kind none (.failed ⟨.notRemoved cause, kind.pathIn directory⟩)

/-- What fails is reported as a failure of the output. -/
theorem FileOutcome.Tells.code_eq {directory : String} {before after : Workspace} {kind : ArtifactKind}
    {text : Option String} {outcome : FileOutcome} (tells : outcome.Tells directory before after kind text)
    {d : Diagnostic} (failed : outcome.diagnostic? = some d) : d.code = "RG100" := by
  cases tells <;> simp only [FileOutcome.diagnostic?, Option.some.injEq, reduceCtorEq] at failed <;> rw [← failed] <;> rfl

namespace Workspace

variable {w w' : Workspace} {directory : String} {names : List String}

/-- What becomes of a file if its step is the only one. -/
def alone (w : Workspace) (directory : String) (step : ArtifactKind × Option String) : FileOutcome :=
  ((bring directory step).run w).1

/-- `w.Settles directory steps w'` says that `w'` is what the steps leave of `w`. -/
structure Settles (w : Workspace) (directory : String) (steps : List (ArtifactKind × Option String))
    (w' : Workspace) : Prop where
  tells : ∀ step ∈ steps, (w.alone directory step).Tells directory w w' step.1 step.2
  /-- Only what is written or removed changes. -/
  others : ∀ place,
    (∀ step ∈ steps, w.alone directory step = .written (step.1.pathIn directory) ∨
      w.alone directory step = .removed (step.1.pathIn directory) →
        w'.locate (step.1.pathIn directory) ≠ .ok place) →
      w'.get? place = w.get? place
  workingDirectory : w'.workingDirectory = w.workingDirectory

/-!
### Directories that are there
-/

theorem LeadsTo.alone_eq (leads : w.LeadsTo directory names) (step : ArtifactKind × Option String) :
    w.alone directory step = outcomeAt directory step (w.get? (step.1.placeIn names)) := by
  obtain ⟨w', run, -⟩ := leads.bring step
  rw [alone, run]

/-- In the same directory the path of a kind's file leads to the same place. -/
theorem LeadsTo.sameAt (leads : w.LeadsTo directory names) (leads' : w'.LeadsTo directory names) {kind : ArtifactKind}
    (same : w'.get? (kind.placeIn names) = w.get? (kind.placeIn names)) : w.SameAt (kind.pathIn directory) w' := by
  cases sound : pathFault? (kind.pathIn directory) with
  | some fault =>
      constructor
      · rw [locate, locate, sound]
      · intro place located
        simp [locate, sound] at located
  | none =>
      have located' := leads'.locate_pathIn sound
      constructor
      · rw [located', leads.locate_pathIn sound]
      · intro place located
        rw [located'] at located
        obtain rfl := Except.ok.inj located
        exact same

/-- A step says what it leaves. -/
theorem Attempts.tells {steps : List (ArtifactKind × Option String)} (attempts : w.Attempts directory names steps w')
    (leads : w.LeadsTo directory names) {step : ArtifactKind × Option String} (mem : step ∈ steps) :
    (w.alone directory step).Tells directory w w' step.1 step.2 := by
  have left := attempts.targets step mem
  rw [leads.alone_eq]
  obtain ⟨kind, text⟩ := step
  cases refused : kind.refusal? directory (w.get? (kind.placeIn names)) with
  | some fault =>
      simp only [leftAt, refused] at left
      simp only [outcomeAt, refused]
      have kept := leads.sameAt attempts.leads left
      cases text with
      | some text => exact .notWritten _ kept
      | none => exact .notRemoved _ kept
  | none =>
      simp only [leftAt, refused] at left
      simp only [outcomeAt, refused]
      obtain ⟨sound, room⟩ := ArtifactKind.refusal?_eq_none.mp refused
      have located := attempts.leads.locate_pathIn sound
      have found := lookup_pathIn located
      rw [left] at found
      cases text with
      | some text =>
          apply FileOutcome.Tells.written
          rw [read, found]
          rfl
      | none =>
          cases before : w.get? (kind.placeIn names) with
          | none =>
              have missing := lookup_pathIn (leads.locate_pathIn sound)
              rw [before] at missing
              exact .absent missing found
          | some entry =>
              cases entry with
              | directory => exact absurd before room
              | file text => exact .removed located before found

theorem Attempts.settles {steps : List (ArtifactKind × Option String)}
    (attempts : w.Attempts directory names steps w') (leads : w.LeadsTo directory names) :
    w.Settles directory steps w' where
  tells _ mem := attempts.tells leads mem
  workingDirectory := attempts.workingDirectory
  others := by
    intro place elsewhere
    by_cases stepped : ∃ step ∈ steps, place = step.1.placeIn names
    · obtain ⟨step, mem, rfl⟩ := stepped
      have left := attempts.targets step mem
      have elsewhere := elsewhere step mem
      rw [leads.alone_eq] at elsewhere
      obtain ⟨kind, text⟩ := step
      cases refused : kind.refusal? directory (w.get? (kind.placeIn names)) with
      | some fault => simpa only [leftAt, refused] using left
      | none =>
          simp only [leftAt, refused] at left
          simp only [outcomeAt, refused] at elsewhere
          obtain ⟨sound, room⟩ := ArtifactKind.refusal?_eq_none.mp refused
          have located := attempts.leads.locate_pathIn sound
          -- a file that was written or removed is not in one of the places that the goal is about
          cases text with
          | some text => exact absurd located (elsewhere (.inl rfl))
          | none =>
              cases before : w.get? (kind.placeIn names) with
              | none => exact left
              | some entry =>
                  rw [before] at elsewhere
                  cases entry with
                  | directory => exact absurd before room
                  | file text => exact absurd located (elsewhere (.inr rfl))
    · push Not at stepped
      exact attempts.others place stepped

/-!
### Directories that are not there
-/

/-- Without a directory no file is written, and what could be made of the directory stays. -/
theorem writeArtifact_nowhere (nowhere : ∀ names, ¬ (w.makeDirectories directory).1.LeadsTo directory names)
    (a : Artifact) :
    ∃ cause, (writeArtifact directory a : StateM Workspace _).run w =
      (.failed ⟨.notWritten cause, a.kind.pathIn directory⟩, (w.makeDirectories directory).1) := by
  have replaced (path : String) : ∃ fault, (replaceFile directory path a.content : StateM Workspace _).run w =
      (.error fault, (w.makeDirectories directory).1) := by
    rw [replaceFile, run_bind, run_makeDirectories]
    cases (w.makeDirectories directory).2 with
    | error fault => exact ⟨fault, rfl⟩
    | ok =>
        dsimp only
        rw [run_bind, run_writeTemporary, writeTemporary]
        cases located : (w.makeDirectories directory).1.locate directory with
        | error fault => exact ⟨fault, rfl⟩
        | ok names =>
            dsimp only
            cases found : (w.makeDirectories directory).1.directoryFault? names with
            | some fault => exact ⟨fault, rfl⟩
            | none => exact absurd ⟨located, directoryFault?_eq_none.mp found⟩ (nowhere names)
  obtain ⟨fault, replaced⟩ := replaced (PathText.join directory a.fileName)
  refine ⟨fault.message, ?_⟩
  simp only [writeArtifact]
  rw [run_bind, replaced]
  rfl

/-- Without a directory no file is found. -/
theorem lookup_nowhere (nowhere : ∀ names, ¬ w.LeadsTo directory names) (kind : ArtifactKind) :
    ∃ fault, w.lookup (kind.pathIn directory) = .error fault := by
  rw [lookup, if_neg (kind.pathIn_ne_empty directory)]
  cases sound : pathFault? (kind.pathIn directory) with
  | some fault => exact ⟨fault, by rw [locate, sound]⟩
  | none =>
      rw [locate_pathIn sound]
      cases followed : w.follow (w.startOf directory) (PathText.components directory) with
      | error fault => exact ⟨fault, rfl⟩
      | ok there =>
          have located : w.locate directory = .ok there := by
            rw [locate, kind.pathFault?_directory sound]
            exact followed
          cases entered : w.directoryFault? there with
          | some fault => exact ⟨fault, by simp [Except.bind, follow, entered]⟩
          | none => exact absurd ⟨located, directoryFault?_eq_none.mp entered⟩ (nowhere there)

/-- Without a directory a step leaves everything as it is, and says so. -/
theorem bring_nowhere {step : ArtifactKind × Option String} (nowhere : ∀ names, ¬ w.LeadsTo directory names)
    (made : step.2.isSome = true → (w.makeDirectories directory).1 = w) :
    (bring directory step).run w = (w.alone directory step, w) ∧
      (w.alone directory step).Tells directory w w step.1 step.2 := by
  obtain ⟨kind, text⟩ := step
  cases text with
  | some text =>
      replace made := made rfl
      obtain ⟨cause, run⟩ := writeArtifact_nowhere (made.symm ▸ nowhere) ⟨kind, text⟩
      have outcome : w.alone directory (kind, some text) = .failed ⟨.notWritten cause, kind.pathIn directory⟩ :=
        congrArg Prod.fst run
      rw [made] at run
      rw [outcome]
      exact ⟨run, .notWritten cause (.refl w _)⟩
  | none =>
      obtain ⟨fault, found⟩ := lookup_nowhere nowhere kind
      by_cases missing : fault = .missing
      · rw [missing] at found
        have run := run_removeStale_missing found
        have outcome : w.alone directory (kind, none) = .absent := congrArg Prod.fst run
        rw [outcome]
        exact ⟨run, .absent found found⟩
      · have removed : w.remove (kind.pathIn directory) = (w, .error fault) := by rw [remove, found]
        have run := run_removeStale_error removed missing
        have outcome : w.alone directory (kind, none) =
            .failed ⟨.notRemoved fault.message, kind.pathIn directory⟩ := congrArg Prod.fst run
        rw [outcome]
        exact ⟨run, .notRemoved fault.message (.refl w _)⟩

theorem mapM_bring_nowhere {steps : List (ArtifactKind × Option String)}
    (nowhere : ∀ names, ¬ w.LeadsTo directory names)
    (made : ∀ step ∈ steps, step.2.isSome = true → (w.makeDirectories directory).1 = w) :
    (steps.mapM (bring directory)).run w = (steps.map (w.alone directory), w) ∧ w.Settles directory steps w := by
  refine ⟨?_, ?_, fun _ _ => rfl, rfl⟩
  · induction steps with
    | nil => rfl
    | cons step steps ih =>
        have first := (bring_nowhere nowhere (made step List.mem_cons_self)).1
        have rest := ih fun later mem => made later (List.mem_cons_of_mem _ mem)
        rw [List.mapM_cons, run_bind, first, run_bind, rest]
        rfl
  · intro step mem
    exact (bring_nowhere nowhere (made step mem)).2

/-!
### Any directory
-/

/-- The workspace in which a list of artifacts is written: if there is one, the directory has been made, as far as
    it can be made. -/
def readied (w : Workspace) (directory : String) (artifacts : List Artifact) : Workspace :=
  if artifacts.isEmpty then w else (w.makeDirectories directory).1

variable {artifacts : List Artifact}

theorem growsTo_readied (w : Workspace) (directory : String) (artifacts : List Artifact) :
    w.GrowsTo (w.readied directory artifacts) := by
  rw [readied]
  split
  · exact .refl w
  · exact w.growsTo_makeDirectories directory

theorem run_publish_readied (w : Workspace) (directory : String) (artifacts : List Artifact) :
    (publish directory artifacts : StateM Workspace _).run w =
      ((stepsFor artifacts).mapM (bring directory)).run (w.readied directory artifacts) := by
  rw [← publish_eq]
  cases artifacts with
  | nil => rfl
  | cons a artifacts => exact w.run_publish_cons directory a artifacts

/-- Whatever is found where, each step has the outcome that it has alone, which says what the step leaves. -/
theorem publish_settles (w : Workspace) (directory : String) (distinct : (artifacts.map (·.kind)).Nodup) :
    ∃ w', (publish directory artifacts : StateM Workspace _).run w =
        ((stepsFor artifacts).map ((w.readied directory artifacts).alone directory), w') ∧
      (w.readied directory artifacts).Settles directory (stepsFor artifacts) w' := by
  rw [run_publish_readied]
  by_cases leads : ∃ names, (w.readied directory artifacts).LeadsTo directory names
  · obtain ⟨names, leads⟩ := leads
    obtain ⟨w', run, attempts⟩ := leads.mapM_bring (nodup_stepsFor distinct)
    refine ⟨w', ?_, attempts.settles leads⟩
    simpa only [← leads.alone_eq] using run
  · push Not at leads
    refine ⟨_, mapM_bring_nowhere leads ?_⟩
    intro step mem written
    rw [readied]
    split
    case isTrue nothing =>
        -- without artifacts there is only something to remove
        rw [List.isEmpty_iff.mp nothing] at mem
        obtain ⟨kind, -, rfl⟩ := List.mem_map.mp mem
        simp at written
    case isFalse => rw [w.makeDirectories_again directory]

end Workspace

end RouteScribe
