/-
Module: RouteScribe.Proofs.Files.OutputDirectory
Layer: Proofs
Purpose: One file of an output directory at a time. In a directory that is there, a file can be written and
  removed unless a directory stands in its way; this changes the place of the file and nothing else, and
  leaves the directory where it was.
Imports: RouteScribe.Proofs.Files.Contents, RouteScribe.Proofs.Files.Paths, RouteScribe.Publishing
Trusted boundary: human-reviewed spec
Main exports: ArtifactKind.pathIn, ArtifactKind.placeIn, ArtifactKind.refusal?, removalOf, Workspace.Sets,
  Workspace.IsOpen, Workspace.LeadsTo.writeArtifact, Workspace.LeadsTo.removeStale
Open obligations: none
-/
import RouteScribe.Proofs.Files.Contents
import RouteScribe.Proofs.Files.Paths
import RouteScribe.Publishing

namespace RouteScribe

/-!
### Paths and places
-/

namespace ArtifactKind

/-- The path of a kind's file in a directory. -/
def pathIn (directory : String) (kind : ArtifactKind) : String := PathText.join directory kind.fileName

/-- Where the file of a kind is when its directory is at the end of `names`. -/
def placeIn (names : List String) (kind : ArtifactKind) : List String := names ++ [kind.fileName]

variable {names : List String}

theorem placeIn_ne_nil (kind : ArtifactKind) : kind.placeIn names ≠ [] := by simp [placeIn]

theorem placeIn_inj {kind kind' : ArtifactKind} (same : kind.placeIn names = kind'.placeIn names) :
    kind = kind' := by
  refine fileName_inj ?_
  simpa [placeIn] using same

theorem pathIn_ne_empty (directory : String) (kind : ArtifactKind) : kind.pathIn directory ≠ "" :=
  PathText.join_ne_empty (by cases kind <;> decide)

/-- Where there can be a file there can be its directory. -/
theorem pathFault?_directory {directory : String} (kind : ArtifactKind)
    (sound : Workspace.pathFault? (kind.pathIn directory) = none) : Workspace.pathFault? directory = none := by
  rw [Workspace.pathFault?] at sound ⊢
  obtain ⟨suffix, joined⟩ : ∃ suffix, kind.pathIn directory = directory ++ suffix := by
    rw [pathIn, PathText.join]
    split
    case isTrue empty => exact ⟨kind.fileName, by simp [empty]⟩
    case isFalse =>
        split
        · exact ⟨kind.fileName, rfl⟩
        · exact ⟨"/" ++ kind.fileName, by rw [String.append_assoc]⟩
  simp only [joined, String.toList_append, List.mem_append, List.contains_eq_mem, String.utf8ByteSize_append] at sound ⊢
  grind

/-- The file of a kind is an entry of its directory. -/
theorem step_fileName (here : List String) (kind : ArtifactKind) :
    Workspace.step here kind.fileName = .ok (kind.placeIn here) := by
  have short : ¬ Workspace.nameLimit < kind.fileName.utf8ByteSize := by cases kind <;> decide
  have plain : kind.fileName ≠ ".." := by cases kind <;> decide
  rw [Workspace.step, if_neg short, if_neg plain]
  rfl

/-- Files of different kinds have different paths. -/
theorem pathIn_inj {directory : String} {kind kind' : ArtifactKind}
    (same : kind.pathIn directory = kind'.pathIn directory) : kind = kind' := by
  have components := congrArg PathText.components same
  rw [pathIn, pathIn, PathText.components_join, PathText.components_join, kind.components_fileName,
    kind'.components_fileName] at components
  exact fileName_inj (List.singleton_inj.mp (List.append_cancel_left components))

/-- Why the file of a kind can be neither written nor removed in a directory that is there, if it cannot:
    there is no such path, or `before`, which is in the file's place, is a directory. -/
def refusal? (directory : String) (kind : ArtifactKind) (before : Option Entry) : Option FileFault :=
  match Workspace.pathFault? (kind.pathIn directory) with
  | some fault => some fault
  | none => if before = some .directory then some .isDirectory else none

theorem refusal?_eq_none {directory : String} {kind : ArtifactKind} {before : Option Entry} :
    kind.refusal? directory before = none ↔
      Workspace.pathFault? (kind.pathIn directory) = none ∧ before ≠ some .directory := by
  rw [refusal?]
  cases Workspace.pathFault? (kind.pathIn directory) <;> simp

end ArtifactKind

/-- What becomes of a file that is to be removed, if `before` was in its place. -/
def removalOf (directory : String) (kind : ArtifactKind) (before : Option Entry) : FileOutcome :=
  match before with
  | some (.file _) => .removed (kind.pathIn directory)
  | _ => .absent

namespace Workspace

variable {w w' : Workspace} {directory : String} {names : List String} {kind : ArtifactKind}

/-- The path of a kind's file is followed along the path of the directory, and then by the file's name. -/
theorem locate_pathIn (sound : pathFault? (kind.pathIn directory) = none) :
    w.locate (kind.pathIn directory) =
      (w.follow (w.startOf directory) (PathText.components directory)).bind fun there =>
        w.follow there [kind.fileName] := by
  have start : w.startOf (kind.pathIn directory) = w.startOf directory := by
    rw [startOf, startOf, ArtifactKind.pathIn, PathText.isAbsolute_join kind.isAbsolute_fileName]
  have along : PathText.components (kind.pathIn directory) =
      PathText.components directory ++ [kind.fileName] := by
    rw [ArtifactKind.pathIn, PathText.components_join, kind.components_fileName]
  rw [locate, sound, start, along, ← follow_append]

theorem LeadsTo.locate_pathIn (leads : w.LeadsTo directory names)
    (sound : pathFault? (kind.pathIn directory) = none) :
    w.locate (kind.pathIn directory) = .ok (kind.placeIn names) := by
  rw [Workspace.locate_pathIn sound, leads.follow_eq]
  exact follow_cons_eq_ok.mpr ⟨leads.found, _, kind.step_fileName names, rfl⟩

theorem lookup_pathIn {place : List String} (located : w.locate (kind.pathIn directory) = .ok place) :
    w.lookup (kind.pathIn directory) =
      match w.get? place with
      | none => .error .missing
      | some entry => .ok (place, entry) := by
  have plain : PathText.wantsDirectory (kind.pathIn directory) = false := by
    rw [ArtifactKind.pathIn, PathText.wantsDirectory_join, kind.wantsDirectory_fileName]
  rw [lookup, if_neg (kind.pathIn_ne_empty directory), located]
  dsimp only
  cases w.get? place with
  | none => rfl
  | some entry => cases entry <;> simp [plain]

/-!
### Open directories
-/

/-- `w.Sets place entry w'` says that `w'` is `w` with `entry` in a place. -/
structure Sets (w : Workspace) (place : List String) (entry : Option Entry) (w' : Workspace) : Prop where
  workingDirectory : w'.workingDirectory = w.workingDirectory
  get? : w'.get? = Function.update w.get? place entry

/-- `w.IsOpen directory names` says that a directory is there, at the end of `names`, and that there is room
    for the files of all kinds. -/
structure IsOpen (w : Workspace) (directory : String) (names : List String) : Prop where
  working : w.get? w.workingDirectory = some .directory
  leads : w.LeadsTo directory names
  sound : ∀ kind : ArtifactKind, pathFault? (kind.pathIn directory) = none
  room : ∀ kind : ArtifactKind, w.get? (kind.placeIn names) ≠ some .directory

theorem LeadsTo.of_directories (leads : w.LeadsTo directory names)
    (workingDirectory : w'.workingDirectory = w.workingDirectory)
    (kept : ∀ place, w.get? place = some .directory → w'.get? place = some .directory) :
    w'.LeadsTo directory names where
  located := by
    have start : w'.startOf directory = w.startOf directory := by rw [startOf, startOf, workingDirectory]
    rw [locate, leads.pathFault?_eq_none, start]
    exact follow_of_directories kept leads.follow_eq
  found := kept names leads.found

namespace LeadsTo

/-- A directory stays where it is when a file changes, wherever it is. -/
theorem sets {place : List String} {entry : Option Entry} (leads : w.LeadsTo directory names)
    (sets : w.Sets place entry w') (before : w.get? place ≠ some .directory) : w'.LeadsTo directory names := by
  apply leads.of_directories sets.workingDirectory
  intro other found
  have apart : other ≠ place := by
    rintro rfl
    exact before found
  rw [sets.get?, Function.update_of_ne apart, found]

/-- There is room for the file of a kind unless it is refused. -/
theorem fileTarget_eq (leads : w.LeadsTo directory names) (kind : ArtifactKind) :
    w.fileTarget (kind.pathIn directory) =
      match kind.refusal? directory (w.get? (kind.placeIn names)) with
      | some fault => .error fault
      | none => .ok (kind.placeIn names) := by
  have entered : w.directoryFault? (kind.placeIn names).dropLast = none := by
    rw [ArtifactKind.placeIn, List.dropLast_concat]
    exact directoryFault?_eq_none.mpr leads.found
  rw [fileTarget, ArtifactKind.refusal?]
  cases sound : pathFault? (kind.pathIn directory) with
  | some fault => rw [locate, sound]
  | none =>
      rw [leads.locate_pathIn sound]
      simp only [entered]
      cases w.get? (kind.placeIn names) with
      | none => rfl
      | some entry => cases entry <;> rfl

end LeadsTo

namespace IsOpen

theorem locate_eq (opened : w.IsOpen directory names) (kind : ArtifactKind) :
    w.locate (kind.pathIn directory) = .ok (kind.placeIn names) :=
  opened.leads.locate_pathIn (opened.sound kind)

end IsOpen

/-!
### Writing
-/

/-- Under a name that is longer than all that are in use, nothing is found. -/
theorem get?_unusedName (w : Workspace) (names : List String) : w.get? (names ++ [w.unusedName]) = none := by
  rw [get?_of_ne_nil w (by simp), Option.map_eq_none_iff, List.find?_eq_none]
  intro entry mem same
  have used : w.unusedName.length ∈ w.entries.flatMap fun entry => entry.1.map String.length := by
    refine List.mem_flatMap.mpr ⟨entry, mem, List.mem_map.mpr ⟨w.unusedName, ?_, rfl⟩⟩
    simp [beq_iff_eq.mp same]
  have bounded := List.le_max?_getD_of_mem (k := 0) used
  have longer : (w.entries.flatMap fun entry => entry.1.map String.length).max?.getD 0 < w.unusedName.length := by
    rw [unusedName, String.length_ofList, List.foldl_max]
    simp
  exact absurd bounded (Nat.not_le.mpr longer)

section

variable (w : Workspace)

theorem run_bind {α β : Type} (x : StateM Workspace α) (f : α → StateM Workspace β) :
    (x >>= f).run w = (f (x.run w).1).run (x.run w).2 := rfl

theorem run_makeDirectories (path : String) :
    (FileSystem.makeDirectories path : StateM Workspace _).run w =
      ((w.makeDirectories path).2, (w.makeDirectories path).1) := rfl

theorem run_writeTemporary (path text : String) :
    (FileSystem.writeTemporary path text : StateM Workspace _).run w =
      ((w.writeTemporary path text).2, (w.writeTemporary path text).1) := rfl

theorem run_rename (temporary : List String) (path : String) :
    (FileSystem.rename (m := StateM Workspace) temporary path).run w =
      ((w.rename temporary path).2, (w.rename temporary path).1) := rfl

theorem run_discard (temporary : List String) :
    (FileSystem.discard (m := StateM Workspace) temporary).run w = ((), w.erase temporary) := rfl

theorem run_remove (path : String) :
    (FileSystem.remove path : StateM Workspace _).run w =
      ((w.remove path).2, (w.remove path).1) := rfl

variable {w} in
/-- Where nothing is found there is nothing to remove. -/
theorem run_removeStale_missing (missing : w.lookup (kind.pathIn directory) = .error .missing) :
    (removeStale directory kind : StateM Workspace _).run w = (.absent, w) := by
  rw [ArtifactKind.pathIn] at missing
  simp only [removeStale]
  rw [run_bind, run_remove, remove, missing]
  rfl

variable {w} in
theorem run_removeStale_error {fault : FileFault} (removed : w.remove (kind.pathIn directory) = (w, .error fault))
    (notMissing : fault ≠ .missing) :
    (removeStale directory kind : StateM Workspace _).run w =
      (.failed ⟨.notRemoved fault.message, kind.pathIn directory⟩, w) := by
  rw [ArtifactKind.pathIn] at removed ⊢
  simp only [removeStale]
  rw [run_bind, run_remove, removed]
  cases fault <;> first | exact absurd rfl notMissing | rfl

end

namespace LeadsTo

/-- The text is written to a place that was free. -/
theorem writeTemporary_eq (leads : w.LeadsTo directory names) (text : String) :
    w.writeTemporary directory text =
      (w.put (names ++ [w.unusedName]) (.file text), .ok (names ++ [w.unusedName])) := by
  rw [writeTemporary, leads.located]
  simp only [directoryFault?_eq_none.mpr leads.found]

/-- A file is refused while its temporary file is there if it was refused before. -/
theorem fileTarget_put (leads : w.LeadsTo directory names) (kind : ArtifactKind) (text : String) :
    (w.put (names ++ [w.unusedName]) (.file text)).fileTarget (kind.pathIn directory) =
      w.fileTarget (kind.pathIn directory) := by
  have fresh : w.get? (names ++ [w.unusedName]) = none := w.get?_unusedName names
  have sets : w.Sets (names ++ [w.unusedName]) (some (.file text))
      (w.put (names ++ [w.unusedName]) (.file text)) := ⟨rfl, w.get?_put (by simp) _⟩
  rw [(leads.sets sets (by simp [fresh])).fileTarget_eq, leads.fileTarget_eq, sets.get?]
  by_cases same : kind.placeIn names = names ++ [w.unusedName]
  · simp [ArtifactKind.refusal?, same, fresh]
  · rw [Function.update_of_ne same]

/-- A file that is not refused takes its place. The temporary file has a place that was free and is free again, so
    nothing else changes, and nothing at all if the file is refused. -/
theorem replaceFile (leads : w.LeadsTo directory names) (kind : ArtifactKind) (text : String) :
    (replaceFile directory (kind.pathIn directory) text : StateM Workspace _).run w =
      match kind.refusal? directory (w.get? (kind.placeIn names)) with
      | some fault => (.error fault, w)
      | none => (.ok (), w.put (kind.placeIn names) (.file text)) := by
  let temporary := names ++ [w.unusedName]
  let written := w.put temporary (.file text)
  have below : temporary ≠ [] := by simp [temporary]
  have cleared : written.erase temporary = w := erase_put (w.get?_unusedName names) below _
  have found : written.get? temporary = some (.file text) := by rw [w.get?_put below, Function.update_self]
  have target : written.fileTarget (kind.pathIn directory) = _ :=
    (leads.fileTarget_put kind text).trans (leads.fileTarget_eq kind)
  rw [RouteScribe.replaceFile, run_bind, run_makeDirectories, leads.makeDirectories_eq]
  dsimp only
  rw [run_bind, run_writeTemporary, leads.writeTemporary_eq]
  dsimp only
  rw [run_bind, run_rename, rename, found]
  dsimp only
  rw [target]
  cases kind.refusal? directory (w.get? (kind.placeIn names)) with
  | none =>
      dsimp only
      rw [cleared]
      rfl
  | some fault =>
      dsimp only
      rw [run_bind, run_discard, cleared]
      rfl

theorem writeArtifact (leads : w.LeadsTo directory names) (kind : ArtifactKind) (text : String) :
    (writeArtifact directory ⟨kind, text⟩ : StateM Workspace _).run w =
      match kind.refusal? directory (w.get? (kind.placeIn names)) with
      | some fault => (.failed ⟨.notWritten fault.message, kind.pathIn directory⟩, w)
      | none => (.written (kind.pathIn directory), w.put (kind.placeIn names) (.file text)) := by
  have replaced := leads.replaceFile kind text
  rw [ArtifactKind.pathIn] at replaced ⊢
  simp only [RouteScribe.writeArtifact, Artifact.fileName]
  rw [run_bind, replaced]
  cases kind.refusal? directory (w.get? (kind.placeIn names)) <;> rfl

/-- The lookup of a kind's file. -/
theorem lookup_eq (leads : w.LeadsTo directory names) (kind : ArtifactKind) :
    w.lookup (kind.pathIn directory) =
      match pathFault? (kind.pathIn directory) with
      | some fault => .error fault
      | none =>
        match w.get? (kind.placeIn names) with
        | none => .error .missing
        | some entry => .ok (kind.placeIn names, entry) := by
  cases sound : pathFault? (kind.pathIn directory) with
  | some fault => rw [lookup, if_neg (kind.pathIn_ne_empty directory), locate, sound]
  | none => exact lookup_pathIn (leads.locate_pathIn sound)

/-- A file that is removed from a directory leaves its place free, and nothing else changes. If there was none, or
    if it is refused, nothing changes at all. -/
theorem removeStale (leads : w.LeadsTo directory names) (kind : ArtifactKind) :
    (removeStale directory kind : StateM Workspace _).run w =
      match kind.refusal? directory (w.get? (kind.placeIn names)) with
      | some fault => (.failed ⟨.notRemoved fault.message, kind.pathIn directory⟩, w)
      | none => (removalOf directory kind (w.get? (kind.placeIn names)), w.erase (kind.placeIn names)) := by
  have found := leads.lookup_eq kind
  rw [ArtifactKind.refusal?]
  cases sound : pathFault? (kind.pathIn directory) with
  | some fault =>
      rw [sound] at found
      have removed : w.remove (kind.pathIn directory) = (w, .error fault) := by rw [remove, found]
      apply run_removeStale_error removed
      rintro rfl
      exact pathFault?_ne_missing _ sound
  | none =>
      rw [sound] at found
      cases before : w.get? (kind.placeIn names) with
      | none =>
          rw [before] at found
          rw [run_removeStale_missing found, erase_eq_self before kind.placeIn_ne_nil]
          rfl
      | some entry =>
          rw [before] at found
          cases entry with
          | directory =>
              have removed : w.remove (kind.pathIn directory) = (w, .error .isDirectory) := by rw [remove, found]
              exact run_removeStale_error removed (by simp)
          | file text =>
              have removed : w.remove (kind.pathIn directory) = (w.erase (kind.placeIn names), .ok ()) := by
                rw [remove, found]
              rw [ArtifactKind.pathIn] at removed
              simp only [RouteScribe.removeStale]
              rw [run_bind, run_remove, removed]
              rfl

end LeadsTo

end Workspace

end RouteScribe
