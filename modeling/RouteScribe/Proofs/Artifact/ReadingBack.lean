/-
Module: RouteScribe.Proofs.Artifact.ReadingBack
Layer: Proofs
Purpose: What the types in an artifact mean to someone who reads it below its imports. A text is read as it stands,
  and a path of one segment means the import with that last segment, if there is one. Read in this way, every
  type that was written comes back, whatever was imported before it and after it, unless the import of one
  item hides another one.
Imports: RouteScribe.Proofs.Artifact.RegisteredTypes
Trusted boundary: human-reviewed spec
Main exports: TypeExpr.mapPaths, UseBlock.pathBehind, NameRequest.MeantBy, NameRequest.NoneHidden, ReadBack,
  types_read_back
Open obligations: none
-/
import RouteScribe.Proofs.Artifact.RegisteredTypes

namespace RouteScribe

open ItemPath (isQualified lastSegment)

/-!
### The specification
-/

namespace TypeExpr

mutual

/-- A type with other paths for its items. -/
def mapPaths (f : String → String) : TypeExpr → TypeExpr
  | .named path args => .named (f path) (mapPathsOf f args)
  | .array element => .array (mapPaths f element)
  | .optional inner => .optional (mapPaths f inner)
  | .param name => .param name
  | .unresolved => .unresolved

/-- Argument types with other paths for their items. -/
def mapPathsOf (f : String → String) : List TypeExpr → List TypeExpr
  | [] => []
  | arg :: args => mapPaths f arg :: mapPathsOf f args

end

end TypeExpr

/-- The path that a name stands for below the given imports: a path of one segment stands for the import with that
    last segment, and every other path for itself. -/
def UseBlock.pathBehind (lines : List String) (name : String) : String :=
  if isQualified name then name else (lines.find? (lastSegment · == name)).getD name

/-- Whether a text that was written for a request, read below the given imports, means what was asked for. -/
def NameRequest.MeantBy (lines : List String) : NameRequest → String → Prop
  | .item path, text => UseBlock.pathBehind lines text = path
  | .type t, text => ∃ u, TypeExpr.parse text = .ok u ∧ u.mapPaths (UseBlock.pathBehind lines) = t

/-- Whether no path of one segment among some items is the last segment of another one. -/
def NameRequest.NoneHidden (requests : List NameRequest) : Prop :=
  ∀ bare ∈ requests.flatMap (·.paths), isQualified bare = false →
    ∀ path ∈ requests.flatMap (·.paths), isQualified path = true → lastSegment path ≠ bare

/-- `ReadBack requests texts lines` says that the texts mean what was requested, if `lines` are the imports. -/
structure ReadBack (requests : List NameRequest) (texts lines : List String) : Prop where
  /-- No two imports have the same last segment, so a name stands for one path at most. -/
  single : (lines.map lastSegment).Nodup
  meant : List.Forall₂ (NameRequest.MeantBy lines) requests texts

/-!
### Names below imports
-/

namespace UseBlock

variable {b : UseBlock} {path : String}

theorem mem_lines : path ∈ b.lines ↔ path ∈ b.imported := List.mem_mergeSort

theorem nodup_nameOf (nodup : b.imported.Nodup) (path : String) : (b.nameOf path).2.imported.Nodup := by
  by_cases importable : Importable path
  · cases found : b.itemNamed? (lastSegment path) with
    | none =>
        rw [nameOf_first importable found]
        apply nodup.append (List.nodup_singleton path)
        intro item mem last
        rw [List.mem_singleton.mp last] at mem
        have differs := List.find?_eq_none.mp found path mem
        simp at differs
    | some item => rwa [nameOf_taken importable found]
  · rwa [nameOf_plain importable]

theorem nodup_after (nodup : b.imported.Nodup) (paths : List String) : (b.after paths).imported.Nodup := by
  induction paths generalizing b with
  | nil => exact nodup
  | cons path paths ih => exact ih (nodup_nameOf nodup path)

theorem nodup_lastSegments_after (paths : List String) :
    ((empty.after paths).lines.map lastSegment).Nodup := by
  have tidy := tidy_after paths
  have nodup : (empty.after paths).lines.Nodup :=
    (List.mergeSort_perm _ _).nodup_iff.mpr (nodup_after List.nodup_nil paths)
  apply List.Nodup.map_on _ nodup
  intro path mem path' mem' same
  have item := (tidy path (mem_lines.mp mem)).2
  rw [same, (tidy path' (mem_lines.mp mem')).2] at item
  exact (Option.some.inj item).symm

/-- The imports in their order tell the same as the imports in the order in which they came. -/
theorem Tidy.find?_lines (tidy : b.Tidy) (short : String) :
    b.lines.find? (lastSegment · == short) = b.itemNamed? short := by
  cases found : b.lines.find? (lastSegment · == short) with
  | none =>
      have others := List.find?_eq_none.mp found
      symm
      apply List.find?_eq_none.mpr
      intro path mem
      exact others path (mem_lines.mpr mem)
  | some path =>
      have mem := mem_lines.mp (List.mem_of_find?_eq_some found)
      have named : lastSegment path = short := by simpa using List.find?_some found
      exact (tidy.itemNamed?_iff.mpr ⟨mem, named⟩).symm

/-- Only items that were named are imported. -/
theorem mem_of_mem_imported_after {paths : List String} (mem : path ∈ (empty.after paths).imported) :
    path ∈ paths := by
  have found := (tidy_after paths path mem).2
  rw [itemNamed?_after] at found
  exact List.mem_of_find?_eq_some found

/-- The name of an item stands for the item, if no import hides it. -/
theorem Tidy.pathBehind_nameIn (tidy : b.Tidy) (named : b.nameOf path = (b.nameIn path, b))
    (notHidden : ∀ item, ¬ b.Hides path item) : pathBehind b.lines (b.nameIn path) = path := by
  by_cases mem : path ∈ b.imported
  · rw [tidy.nameIn_of_mem mem, pathBehind, ItemPath.isQualified_lastSegment, tidy.find?_lines, (tidy path mem).2]
    rfl
  · rw [nameIn_of_notMem named mem, pathBehind, tidy.find?_lines]
    cases found : b.itemNamed? path with
    | none => simp
    | some item => exact absurd (tidy.itemNamed?_iff.mp found) (notHidden item)

end UseBlock

/-!
### Types below imports
-/

namespace TypeExpr

variable {names : String → String} {f : String → String}

theorem Concrete.of_array {t : TypeExpr} (concrete : (array t).Concrete) : t.Concrete :=
  concrete.of_mem_parts (List.mem_cons_of_mem _ t.self_mem_parts)

theorem Concrete.of_optional {t : TypeExpr} (concrete : (optional t).Concrete) : t.Concrete :=
  concrete.of_mem_parts (List.mem_cons_of_mem _ t.self_mem_parts)

theorem Concrete.of_mem_args {path : String} {args : List TypeExpr} {t : TypeExpr}
    (concrete : (named path args).Concrete) (mem : t ∈ args) : t.Concrete :=
  concrete.of_mem_parts (List.mem_cons_of_mem _ (mem_partsOf mem t.self_mem_parts))

mutual

/-- A type without placeholders comes back from its names if each of its paths does. -/
theorem mapPaths_rename (t : TypeExpr) (concrete : t.Concrete) (back : ∀ path ∈ t.paths, f (names path) = path) :
    (t.rename names).mapPaths f = t := by
  cases t with
  | named path args =>
      rw [paths_named] at back
      obtain ⟨own, inner⟩ := List.forall_mem_cons.mp back
      have each : ∀ arg ∈ args, arg.Concrete := fun arg mem => concrete.of_mem_args mem
      rw [rename, mapPaths, own, mapPathsOf_renameArgs args each inner]
  | array element =>
      rw [paths_array] at back
      rw [rename, mapPaths, mapPaths_rename element concrete.of_array back]
  | optional inner =>
      rw [paths_optional] at back
      rw [rename, mapPaths, mapPaths_rename inner concrete.of_optional back]
  | param name => exact absurd (self_mem_parts _) (concrete.closed name)
  | unresolved => exact absurd (self_mem_parts _) concrete.resolved

theorem mapPathsOf_renameArgs (args : List TypeExpr) (concrete : ∀ arg ∈ args, arg.Concrete)
    (back : ∀ path ∈ pathsOf args, f (names path) = path) : mapPathsOf f (renameArgs names args) = args := by
  cases args with
  | nil => rfl
  | cons arg args =>
      rw [pathsOf_cons] at back
      obtain ⟨first, others⟩ := List.forall_mem_append.mp back
      obtain ⟨concrete, each⟩ := List.forall_mem_cons.mp concrete
      rw [renameArgs, mapPathsOf, mapPaths_rename arg concrete first, mapPathsOf_renameArgs args each others]

end

end TypeExpr

/-- A request is met by what is written for it under the names of the block at the end. -/
theorem NameRequest.meantBy_writtenIn {b : UseBlock} {request : NameRequest}
    (back : ∀ path ∈ request.paths, UseBlock.pathBehind b.lines (b.nameIn path) = path)
    (parsed : ∀ t, request = .type t → TypeExpr.Writable t ∧ t.Concrete) :
    request.MeantBy b.lines (request.writtenIn b) := by
  cases request with
  | item path => exact back path (List.mem_singleton_self path)
  | type t =>
      obtain ⟨writable, concrete⟩ := parsed t rfl
      exact ⟨t.rename b.nameIn, (writable.rename b).parse_text, TypeExpr.mapPaths_rename t concrete back⟩

/-- Whatever names and types without placeholders are written with one block of imports, all of them are read back
    below its final lines, unless a path of one segment among them is the last segment of another path. -/
theorem types_read_back {requests : List NameRequest}
    (parsed : ∀ t, .type t ∈ requests → ∃ text, TypeExpr.parse text = .ok t)
    (concrete : ∀ t, .type t ∈ requests → t.Concrete) (noneHidden : NameRequest.NoneHidden requests) :
    ReadBack requests (UseBlock.empty.answerAll requests).1 (UseBlock.empty.answerAll requests).2.lines := by
  have settled := UseBlock.snd_answerAll .empty requests
  have tidy := UseBlock.tidy_after (requests.flatMap (·.paths))
  rw [UseBlock.fst_answerAll List.prefix_rfl, settled]
  refine ⟨UseBlock.nodup_lastSegments_after _, ?_⟩
  rw [List.forall₂_map_right_iff, List.forall₂_same]
  intro request mem
  apply NameRequest.meantBy_writtenIn
  · intro path isPath
    have asked : path ∈ requests.flatMap (·.paths) := List.mem_flatMap.mpr ⟨request, mem, isPath⟩
    apply tidy.pathBehind_nameIn (UseBlock.nameOf_of_mem asked List.prefix_rfl)
    intro item hides
    -- an item that hides a path has been asked for, too
    have isImport := UseBlock.mem_of_mem_imported_after hides.1
    have bare : isQualified path = false := hides.2 ▸ ItemPath.isQualified_lastSegment item
    exact noneHidden path asked bare item isImport (tidy item hides.1).1.1 hides.2
  · intro t isType
    subst isType
    exact ⟨TypeExpr.writable_iff.mpr (parsed t mem), concrete t mem⟩

/-- The second item of a last segment is written by its path, a standard path with two arguments stays a path, and an
    array is no path at all. -/
theorem types_read_back_clash :
    let requests : List NameRequest := [.item "b::User", .type (.named "std::vec::Vec"
        [.array (.named "a::User" []), .optional (.named "b::User" [.named "u8" []])]),
      .type (.named "a::Option" [])]
    (∀ t, .type t ∈ requests → ∃ text, TypeExpr.parse text = .ok t) ∧
      (∀ t, .type t ∈ requests → t.Concrete) ∧ NameRequest.NoneHidden requests ∧
      (UseBlock.empty.answerAll requests).1 = ["User", "std::vec::Vec<Vec<a::User>, Option<User<u8>>>", "a::Option"] ∧
      ReadBack requests (UseBlock.empty.answerAll requests).1 (UseBlock.empty.answerAll requests).2.lines := by
  intro requests
  have parsed : ∀ t, .type t ∈ requests → ∃ text, TypeExpr.parse text = .ok t := by
    intro t mem
    simp only [requests, List.mem_cons, reduceCtorEq, NameRequest.type.injEq, List.not_mem_nil, or_false,
      false_or] at mem
    rcases mem with rfl | rfl
    · exact ⟨"std::vec::Vec<[a::User], Option<b::User<u8>>>", by cbv⟩
    · exact ⟨"a::Option", by cbv⟩
  have concrete : ∀ t, .type t ∈ requests → t.Concrete := by
    intro t mem
    simp only [requests, List.mem_cons, reduceCtorEq, NameRequest.type.injEq, List.not_mem_nil, or_false,
      false_or] at mem
    rcases mem with rfl | rfl
    · constructor <;> simp [TypeExpr.parts, TypeExpr.partsOf]
    · constructor <;> simp [TypeExpr.parts, TypeExpr.partsOf]
  have noneHidden : NameRequest.NoneHidden requests := by
    unfold NameRequest.NoneHidden
    decide +kernel
  exact ⟨parsed, concrete, noneHidden, by decide +kernel, types_read_back parsed concrete noneHidden⟩

end RouteScribe
