/-
Module: RouteScribe.Proofs.Files.Paths
Layer: Proofs
Purpose: The path of an entry of a directory leads along the path of the directory and then along the name of
  the entry, however the path of the directory is written.
Imports: RouteScribe.Artifact, RouteScribe.Files.PathText, RouteScribe.Proofs.Text.Parts
Trusted boundary: human-reviewed spec
Main exports: PathText.components_join, PathText.wantsDirectory_join, PathText.isAbsolute_join
Open obligations: none
-/
import RouteScribe.Artifact
import RouteScribe.Files.PathText
import RouteScribe.Proofs.Text.Parts

namespace RouteScribe

/-!
### Paths of entries
-/

namespace PathText

variable {directory name : String}

theorem names_ne_nil (path : String) : names path ≠ [] := by
  simp [names, Text.parts, Text.splitAt_ne_nil]

/-- The names of an entry's path are those of the directory, but for names that say nothing, and then those
    of the entry. -/
theorem names_join (directory name : String) :
    ∃ above, names (join directory name) = above ++ names name ∧
      above.filter (fun name => name != "" && name != ".") = components directory := by
  rw [join]
  split
  case isTrue empty =>
      refine ⟨[], rfl, ?_⟩
      rw [empty]
      decide
  case isFalse =>
      split
      case isTrue slash =>
          obtain ⟨above, ends⟩ := List.getLast?_eq_some_iff.mp slash
          refine ⟨Text.parts '/' (String.ofList above), ?_, ?_⟩
          · simp [names, Text.parts, ends, Text.splitAt_append_cons]
          · simp [components, names, Text.parts, ends, Text.splitAt_append_cons, Text.splitAt]
      case isFalse =>
          refine ⟨names directory, ?_, rfl⟩
          simp [names, Text.parts, Text.splitAt_append_cons]

theorem components_join (directory name : String) :
    components (join directory name) = components directory ++ components name := by
  obtain ⟨above, joined, kept⟩ := names_join directory name
  rw [components, joined, List.filter_append, kept]
  rfl

theorem wantsDirectory_join (directory name : String) :
    wantsDirectory (join directory name) = wantsDirectory name := by
  obtain ⟨above, joined, -⟩ := names_join directory name
  have last := List.getLast?_eq_some_getLast (names_ne_nil name)
  rw [wantsDirectory, wantsDirectory, joined, List.getLast?_append, last, Option.some_or]

theorem isAbsolute_join (relative : isAbsolute name = false) :
    isAbsolute (join directory name) = isAbsolute directory := by
  rw [join]
  split
  case isTrue empty => rw [relative, empty]; decide
  case isFalse filled =>
      have letters : directory.toList ≠ [] := by simpa using filled
      obtain ⟨c, cs, letters⟩ := List.exists_cons_of_ne_nil letters
      split <;> simp [isAbsolute, letters]

theorem join_ne_empty (filled : name ≠ "") : join directory name ≠ "" := by
  rw [join]
  split
  · exact filled
  · split <;> simp [filled]

end PathText

/-!
### Names of artifacts' files
-/

namespace ArtifactKind

theorem mem_all (kind : ArtifactKind) : kind ∈ all := by cases kind <;> decide

theorem fileName_inj {kind kind' : ArtifactKind} (same : kind.fileName = kind'.fileName) : kind = kind' := by
  cases kind <;> cases kind' <;> first | rfl | exact absurd same (by decide)

@[simp] theorem components_fileName (kind : ArtifactKind) :
    PathText.components kind.fileName = [kind.fileName] := by
  cases kind <;> decide +kernel

@[simp] theorem wantsDirectory_fileName (kind : ArtifactKind) :
    PathText.wantsDirectory kind.fileName = false := by
  cases kind <;> decide +kernel

@[simp] theorem isAbsolute_fileName (kind : ArtifactKind) : PathText.isAbsolute kind.fileName = false := by
  cases kind <;> decide +kernel

end ArtifactKind

end RouteScribe
