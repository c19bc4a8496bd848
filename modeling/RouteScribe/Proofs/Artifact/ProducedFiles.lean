/-
Module: RouteScribe.Proofs.Artifact.ProducedFiles
Layer: Proofs
Purpose: What the produced files hold. Each has a first line of its own, then its imports if there are any, and then its
  body, with an empty line before each of the two. There is at most one file of each kind. The file for the
  serializer is there if there are types to register, and has one line for each of them.
Imports: RouteScribe.Generation, RouteScribe.Proofs.Artifact.ItemNames
Trusted boundary: human-reviewed spec
Main exports: fileText, SchemaRegistry.WrittenTo, Artifact.content_ofParts, SchemaRegistry.writtenTo_artifact?,
  artifact?_generate, nodup_kinds
Open obligations: none
-/
import RouteScribe.Generation
import RouteScribe.Proofs.Artifact.ItemNames

namespace RouteScribe

/-!
### The specification
-/

/-- The text of a file with the given imports and the given body. -/
def fileText (imports : List String) (body : String) : String :=
  "// @generated by routegen. Do not edit by hand.\n" ++ "\n" ++
    (if imports = [] then "" else String.join (imports.map fun path => "use " ++ path ++ ";\n") ++ "\n") ++ body

/-- `r.WrittenTo file` says that there is a file for the serializer if and only if there are types to register, and
    that it registers them, each on a line of its own, and nothing else. -/
def SchemaRegistry.WrittenTo (r : SchemaRegistry) (file : Option Artifact) : Prop :=
  r.types = [] ∧ file = none ∨
    r.types ≠ [] ∧ ∃ a, file = some a ∧ a.kind = .serialization ∧
      a.content = fileText r.uses.lines
        ("/// Registers every type reachable from a route's inputs or outputs.\n" ++
          "pub fn register_serializable_types(registry: &mut " ++ r.registry ++ ") \x7b\n" ++
          String.join (r.types.map fun type => "    registry.register::<" ++ type ++ ">();\n") ++
          "\x7d\n")

/-!
### Texts
-/

theorem UseBlock.isEmpty_iff_lines {b : UseBlock} : b.isEmpty = true ↔ b.lines = [] := by
  have lines : b.lines = [] ↔ b.imported = [] := by
    rw [← List.length_eq_zero_iff, lines, List.length_mergeSort, List.length_eq_zero_iff]
  rw [isEmpty, List.isEmpty_iff, lines]

/-- A file that is made of its imports and its body has their text. -/
theorem Artifact.content_ofParts (kind : ArtifactKind) (uses : UseBlock) (body : String) :
    (ofParts kind uses body).content = fileText uses.lines body := by
  have block : (if uses.isEmpty then "" else uses.text ++ "\n") =
      if uses.lines = [] then "" else String.join (uses.lines.map fun path => "use " ++ path ++ ";\n") ++ "\n" := by
    by_cases none : uses.lines = []
    · rw [if_pos (UseBlock.isEmpty_iff_lines.mpr none), if_pos none]
    · rw [if_neg (mt UseBlock.isEmpty_iff_lines.mp none), if_neg none, UseBlock.text]
  exact congrArg (fun block => header ++ "\n" ++ block ++ body) block

/-- The file for the serializer registers the types of its registry. -/
theorem SchemaRegistry.writtenTo_artifact? (conv : Conventions) (set : TypeSet) :
    (ofTypes conv set).WrittenTo (artifact? conv set) := by
  have types_eq_nil : (ofTypes conv set).types = [] ↔ set.isEmpty = true := by
    rw [types_ofTypes, List.map_eq_nil_iff, TypeSet.isEmpty, List.isEmpty_iff]
  by_cases none : set.isEmpty = true
  · exact .inl ⟨types_eq_nil.mpr none, if_pos none⟩
  · refine .inr ⟨mt types_eq_nil.mp none, _, if_neg none, rfl, ?_⟩
    rw [Artifact.content_ofParts]
    rfl

/-!
### Kinds
-/

theorem kind_of_made {c : Prop} [Decidable c] {kind : ArtifactKind} {uses : UseBlock} {body : String} {a : Artifact}
    (made : (if c then none else some (.ofParts kind uses body)) = some a) : a.kind = kind := by
  obtain rfl := Option.some.inj (Option.ite_none_left_eq_some.mp made).2
  rfl

/-- Whether the artifacts carry the kinds that they are made for. -/
structure Emission.WellKinded (e : Emission) : Prop where
  registration : ∀ a, e.registration = some a → a.kind = .registration
  dispatch : ∀ a, e.dispatch = some a → a.kind = .dispatch
  serialization : ∀ a, e.serialization = some a → a.kind = .serialization

theorem Emission.wellKinded_ofGroups (g : TypeGraph) (groups : List RouteGroup) :
    (Emission.ofGroups g groups).WellKinded where
  registration _ := kind_of_made
  dispatch _ := kind_of_made
  serialization _ := kind_of_made

/-- There is at most one artifact of each kind, and they are in the order of the kinds. -/
theorem kinds_artifacts (p : Program) (o : Options) :
    (generate p o).artifacts.map (·.kind) =
      ArtifactKind.all.filter fun kind => ((generate p o).artifact? kind).isSome := by
  let emission := Emission.ofGroups (o.graph p) (scan p o.conventions).groups
  have artifacts : (generate p o).artifacts = emission.artifacts := rfl
  obtain ⟨registration, dispatch, serialization⟩ : emission.WellKinded := Emission.wellKinded_ofGroups _ _
  simp only [Generation.artifact?, artifacts, Emission.artifacts, ArtifactKind.all]
  cases first : emission.registration <;> cases second : emission.dispatch <;>
    cases third : emission.serialization <;> simp_all

/-- The artifact of a kind, if there is one. -/
def Emission.ofKind (e : Emission) : ArtifactKind → Option Artifact
  | .registration => e.registration
  | .dispatch => e.dispatch
  | .serialization => e.serialization

/-- Each artifact is found under its kind. -/
theorem artifact?_generate (p : Program) (o : Options) (kind : ArtifactKind) :
    (generate p o).artifact? kind = (Emission.ofGroups (o.graph p) (scan p o.conventions).groups).ofKind kind := by
  let emission := Emission.ofGroups (o.graph p) (scan p o.conventions).groups
  have artifacts : (generate p o).artifacts = emission.artifacts := rfl
  obtain ⟨registration, dispatch, serialization⟩ : emission.WellKinded := Emission.wellKinded_ofGroups _ _
  change _ = emission.ofKind kind
  simp only [Generation.artifact?, artifacts, Emission.artifacts]
  cases first : emission.registration <;> cases second : emission.dispatch <;>
    cases third : emission.serialization <;> cases kind <;> simp_all [Emission.ofKind]

/-- The file for the serializer is written from the set of members. -/
theorem artifact?_serialization (p : Program) (o : Options) :
    (generate p o).artifact? .serialization = SchemaRegistry.artifact? o.conventions (generate p o).types :=
  artifact?_generate p o .serialization

theorem nodup_kinds (p : Program) (o : Options) : ((generate p o).artifacts.map (·.kind)).Nodup := by
  rw [kinds_artifacts]
  exact List.Nodup.filter _ (by decide)

end RouteScribe
