/-
Module: RouteScribe.Proofs.Artifact.ImportLines
Layer: Proofs
Purpose: The imports at the head of an artifact fit the names in it. Whatever names and types are asked for, in any
  order, each item has one name for all of them, and the lines at the end import exactly the items that are
  written by their last segments: one line for each, in their order, no two with the same last segment, and
  none with a name that every file has in scope.
Imports: RouteScribe.Proofs.Artifact.ReadingBack
Trusted boundary: human-reviewed spec
Main exports: UseBlock.useLine, UseBlock.Coherent, UseBlock.increasing_lines, UseBlock.text_eq_empty_iff,
  UseBlock.answerAll_coherent
Open obligations: none
-/
import RouteScribe.Proofs.Artifact.ReadingBack

namespace RouteScribe

open ItemPath (isQualified lastSegment)

/-!
### The specification
-/

/-- The answer to a request if items are written by the given names. -/
def NameRequest.writtenBy (name : String → String) : NameRequest → String
  | .item path => name path
  | .type t => (t.rename name).text

namespace UseBlock

/-- The line that imports an item. -/
def useLine (path : String) : String := "use " ++ path ++ ";\n"

/-- `Coherent requests answers uses name imports` says that the answers write each item by its one `name`, and that
    `uses` are the imports that these names need. -/
structure Coherent (requests : List NameRequest) (answers : List String) (uses : UseBlock)
    (name : String → String) (imports : List String) : Prop where
  /-- All answers write an item by the same name, whatever is asked for before it and after it. -/
  answered : answers = requests.map (·.writtenBy name)
  /-- A path of one segment is written as it stands, -/
  bare : ∀ path ∈ requests.flatMap (·.paths), isQualified path = false → name path = path
  /-- and every other path in full or by its last segment: -/
  qualified : ∀ path ∈ requests.flatMap (·.paths), isQualified path = true →
    name path = path ∨ name path = lastSegment path
  /-- by its last segment if it is among the imports, and only then. -/
  short_iff : ∀ path ∈ requests.flatMap (·.paths), isQualified path = true →
    (name path = lastSegment path ↔ path ∈ imports)
  /-- There are no imports of anything else. -/
  asked : ∀ path ∈ imports, path ∈ requests.flatMap (·.paths) ∧ isQualified path = true
  /-- There is one line for each import, -/
  rendered : uses.text = String.join (imports.map useLine)
  /-- in the order of their paths. -/
  increasing : imports.Pairwise (· < ·)
  /-- No two of them have the same last segment, -/
  single : (imports.map lastSegment).Nodup
  /-- and none of these is in scope everywhere. -/
  free : ∀ path ∈ imports, lastSegment path ∉ reservedNames
  /-- The block is empty if and only if its text is. -/
  isEmpty_iff : uses.isEmpty = true ↔ uses.text = ""

/-!
### The lines of a block
-/

variable {b : UseBlock} {path : String}

/-- The lines are in strict order if no item is imported twice. -/
theorem increasing_lines (nodup : b.imported.Nodup) : b.lines.Pairwise (· < ·) := by
  have ordered : b.lines.Pairwise (· ≤ ·) := List.pairwise_mergeSort' (· ≤ ·) b.imported
  have distinct : b.lines.Nodup := (List.mergeSort_perm _ _).nodup_iff.mpr nodup
  exact ordered.imp₂ (fun _ _ le differ => Std.lt_of_le_of_ne le differ) distinct

theorem useLine_ne_empty (path : String) : useLine path ≠ "" := by
  intro empty
  have chars := congrArg String.toList empty
  simp [useLine] at chars

/-- Only an empty block has an empty text. -/
theorem text_eq_empty_iff : b.isEmpty = true ↔ b.text = "" := by
  rw [isEmpty_iff_lines, text]
  cases b.lines with
  | nil => simp
  | cons path rest =>
      refine iff_of_false (List.cons_ne_nil path rest) fun empty => useLine_ne_empty path ?_
      rw [List.map_cons, String.join_cons, String.append_eq_empty_iff] at empty
      exact empty.1

/-!
### Names and lines
-/

/-- An item that was named is written by its last segment if and only if it is imported. -/
theorem Tidy.nameIn_eq_lastSegment_iff (tidy : b.Tidy) (named : b.nameOf path = (b.nameIn path, b))
    (qualified : isQualified path = true) : b.nameIn path = lastSegment path ↔ path ∈ b.lines := by
  rw [mem_lines]
  refine ⟨fun short => ?_, tidy.nameIn_of_mem⟩
  by_contra notMem
  -- the last segment of a path with several segments is not the path itself
  rw [nameIn_of_notMem named notMem] at short
  rw [short, ItemPath.isQualified_lastSegment] at qualified
  cases qualified

theorem nameIn_of_bare (bare : isQualified path = false) : b.nameIn path = path := by
  rcases b.nameIn_cases path with whole | ⟨importable, -⟩
  · exact whole
  · rw [importable.1] at bare
    cases bare

/-- However names and types are asked for, the names that are given and the imports at the end fit each other. -/
theorem answerAll_coherent (requests : List NameRequest) :
    ∃ name imports, Coherent requests (empty.answerAll requests).1 (empty.answerAll requests).2 name imports := by
  have settled := snd_answerAll empty requests
  have tidy := tidy_after (requests.flatMap (·.paths))
  refine ⟨(empty.answerAll requests).2.nameIn, (empty.answerAll requests).2.lines, ?_⟩
  constructor
  case answered =>
    rw [fst_answerAll List.prefix_rfl]
    apply List.map_congr_left
    rintro (path | t) _ <;> rfl
  case bare => exact fun _ _ => nameIn_of_bare
  case qualified => exact fun path _ _ => (nameIn_cases _ path).imp_right And.right
  case short_iff =>
    intro path isAsked
    rw [settled]
    exact tidy.nameIn_eq_lastSegment_iff (nameOf_of_mem isAsked List.prefix_rfl)
  case asked =>
    intro path mem
    rw [settled] at mem
    exact ⟨mem_of_mem_imported_after (mem_lines.mp mem), (tidy path (mem_lines.mp mem)).1.1⟩
  case rendered => rfl
  case increasing =>
    rw [settled]
    exact increasing_lines (nodup_after List.nodup_nil _)
  case single =>
    rw [settled]
    exact nodup_lastSegments_after _
  case free =>
    intro path mem
    rw [settled] at mem
    exact (tidy path (mem_lines.mp mem)).1.2
  case isEmpty_iff => exact text_eq_empty_iff

end UseBlock

end RouteScribe
