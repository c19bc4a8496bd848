/-
Module: RouteScribe.Proofs.Reachability.RouteMembers
Layer: Proofs
Purpose: The types that a pass finds from its routes. They are what can be reached from the types that the routes
  mention, and each of them is a part of such a type or of the type of a serialized field. Arguments are not
  put in for placeholders on the way, so a placeholder in a field's type is found again in the members that
  the field leads to; from the routes themselves none comes in if they mention none.
Imports: RouteScribe.Proofs.Artifact.ProducedFiles, RouteScribe.Proofs.Reachability.Runs,
  RouteScribe.Proofs.Routes.ScannedGroups
Trusted boundary: human-reviewed spec
Main exports: TypeExpr.Concrete, RouteEntry.IsClosed, TypeGraph.HasField, mem_types_generate,
  writable_types_generate, TypeGraph.Visits.origin, ConcreteUpToFields, concrete_up_to_fields
Open obligations: none
-/
import RouteScribe.Proofs.Artifact.ProducedFiles
import RouteScribe.Proofs.Reachability.Runs
import RouteScribe.Proofs.Routes.ScannedGroups

namespace RouteScribe

open Relation (ReflTransGen)
open TypeExpr (Writable)

/-!
### The specification
-/

/-- Whether a type is given in full: it has neither placeholders nor parts that could not be resolved. -/
structure TypeExpr.Concrete (t : TypeExpr) : Prop where
  closed : ∀ name, .param name ∉ t.parts
  resolved : .unresolved ∉ t.parts

/-- Whether no type that a route mentions has a placeholder. -/
structure RouteEntry.IsClosed (e : RouteEntry) : Prop where
  params : ∀ param ∈ e.params, ∀ name, .param name ∉ param.type.parts
  returns : ∀ declared value isAsync, e.returns = .payload declared value isAsync →
    ∀ name, .param name ∉ declared.parts

/-- Whether a field is part of the serialized form of a declared type. -/
def TypeGraph.HasField (g : TypeGraph) (t : TypeExpr) (f : Field) : Prop :=
  ∃ path args d source, t = .named path args ∧ g.Shape path args d ∧ g.Contributes d source ∧
    f ∈ source.fields ∧ g.Serialized f

/-- `ConcreteUpToFields p o` says that the members of a pass are concrete as far as the types of the serialized
    fields are. -/
structure ConcreteUpToFields (p : Program) (o : Options) : Prop where
  /-- Every member is concrete, or a part of the type of a field of a member. -/
  members : ∀ u ∈ (generate p o).types.members, u.Concrete ∨
    ∃ t ∈ (generate p o).types.members, ∃ f, (o.graph p).HasField t f ∧ u ∈ f.type.parts
  /-- So all members are concrete unless one of them has a field whose type is not. -/
  all : (∀ u ∈ (generate p o).types.members, u.Concrete) ∨
    ∃ t ∈ (generate p o).types.members, ∃ f, (o.graph p).HasField t f ∧ ¬ f.type.Concrete
  /-- The registry for the serializer has the members and no other types, -/
  registered : (SchemaRegistry.ofTypes o.conventions (generate p o).types).types =
    (generate p o).types.members.map fun t =>
      (t.rename (SchemaRegistry.ofTypes o.conventions (generate p o).types).uses.nameIn).text
  /-- and its types are those that the file for the serializer registers. -/
  file : (SchemaRegistry.ofTypes o.conventions (generate p o).types).WrittenTo
    ((generate p o).artifact? .serialization)

/-!
### Members of a pass
-/

section

variable {p : Program} {o : Options}

theorem types_generate :
    (generate p o).types =
      (((generate p o).groups.flatMap (·.entries)).map Expansion.route).foldl (o.graph p).perform .empty := by
  rw [List.foldl_map]
  change (o.graph p).reachableFrom (generate p o).groups = _
  rw [TypeGraph.reachableFrom]
  congr

/-- On a program with types that texts give, the members are what can be reached from the types of the routes. -/
theorem mem_types_generate_of_written {u : TypeExpr} (written : p.Written) :
    u ∈ (generate p o).types.members ↔ ∃ group ∈ (generate p o).groups, ∃ e ∈ group.entries,
      ∃ t ∈ (Expansion.route e).starts, (o.graph p).Reaches t u := by
  have allowed : ∀ s ∈ ((generate p o).groups.flatMap (·.entries)).map Expansion.route,
      s.Allowed (o.graph p).program := by
    intro s mem
    obtain ⟨e, isEntry, rfl⟩ := List.mem_map.mp mem
    obtain ⟨group, isGroup, isEntry⟩ := List.mem_flatMap.mp isEntry
    exact ⟨o.conventions, group, isGroup, isEntry⟩
  rw [types_generate, TypeGraph.foldl_perform_exact written TypeGraph.balanced_empty allowed]
  simp only [TypeSet.empty, List.not_mem_nil, false_or, List.mem_map, List.mem_flatMap]
  constructor
  · rintro ⟨_, ⟨e, ⟨group, isGroup, isEntry⟩, rfl⟩, t, isStart, reaches⟩
    exact ⟨group, isGroup, e, isEntry, t, isStart, reaches⟩
  · rintro ⟨group, isGroup, e, isEntry, t, isStart, reaches⟩
    exact ⟨_, ⟨e, ⟨group, isGroup, isEntry⟩, rfl⟩, t, isStart, reaches⟩

/-- On a program that was loaded, the members are what can be reached from the types of the routes. -/
theorem mem_types_generate {u : TypeExpr} (loaded : p.Loaded) :
    u ∈ (generate p o).types.members ↔ ∃ group ∈ (generate p o).groups, ∃ e ∈ group.entries,
      ∃ t ∈ (Expansion.route e).starts, (o.graph p).Reaches t u :=
  mem_types_generate_of_written loaded.written

/-- The members of a pass over a program that was loaded can be written. -/
theorem writable_types_generate (loaded : p.Loaded) : (generate p o).types.AllWritable := by
  intro u mem
  obtain ⟨group, isGroup, e, isEntry, t, isStart, visits, -⟩ := (mem_types_generate loaded).mp mem
  have allowed : (Expansion.route e).Allowed p := ⟨o.conventions, group, isGroup, isEntry⟩
  clear mem
  induction visits with
  | refl => exact allowed.writable loaded.written t isStart
  | tail _ visit ih => exact visit.writable loaded.written ih

end

/-!
### Where members come from
-/

namespace TypeGraph

variable {g : TypeGraph} {t u : TypeExpr}

theorem Visits.part_or_field (visits : g.Visits t u) :
    u ∈ t.parts ∨ g.IsMember t ∧ ∃ f, g.HasField t f ∧ f.type = u := by
  have argument {path : String} {args : List TypeExpr} (mem : u ∈ args) :
      u ∈ (TypeExpr.named path args).parts := by
    rw [TypeExpr.parts]
    exact List.mem_cons_of_mem _ (TypeExpr.mem_partsOf mem u.self_mem_parts)
  cases visits with
  | element => exact Or.inl (List.mem_cons_of_mem _ u.self_mem_parts)
  | inner => exact Or.inl (List.mem_cons_of_mem _ u.self_mem_parts)
  | undeclared _ _ mem => exact Or.inl (argument mem)
  | argument _ mem => exact Or.inl (argument mem)
  | field shape contributes mem serialized =>
      refine Or.inr ⟨isMember_named.mpr ⟨_, shape⟩, _, ?_, rfl⟩
      exact ⟨_, _, _, _, rfl, shape, contributes, mem, serialized⟩

/-- Whatever is visited is a part of the type at the start, or of the type of a field of a member on the way. -/
theorem Visits.origin (visits : ReflTransGen g.Visits t u) :
    u ∈ t.parts ∨ ∃ s f, g.Reaches t s ∧ g.HasField s f ∧ u ∈ f.type.parts := by
  induction visits with
  | refl => exact Or.inl t.self_mem_parts
  | @tail v w before visit ih =>
      rcases visit.part_or_field with part | ⟨isMember, f, isField, rfl⟩
      · rcases ih with ofStart | ⟨s, f, reaches, isField, ofField⟩
        · exact Or.inl (TypeExpr.parts_trans ofStart part)
        · exact Or.inr ⟨s, f, reaches, isField, TypeExpr.parts_trans ofField part⟩
      · exact Or.inr ⟨v, f, ⟨before, isMember⟩, isField, f.type.self_mem_parts⟩

/-- From types that lead only to one another, only these are visited. -/
theorem mem_of_visits {ts : List TypeExpr} (stays : ∀ s ∈ ts, ∀ v ∈ (g.visit s).next, v ∈ ts) (mem : t ∈ ts)
    (visits : ReflTransGen g.Visits t u) : u ∈ ts := by
  induction visits with
  | refl => exact mem
  | tail _ visit ih => exact stays _ ih _ (mem_next_iff.mpr visit)

end TypeGraph

/-!
### Placeholders
-/

theorem TypeExpr.Concrete.of_mem_parts {t u : TypeExpr} (concrete : t.Concrete) (part : u ∈ t.parts) :
    u.Concrete where
  closed name inner := concrete.closed name (TypeExpr.parts_trans part inner)
  resolved inner := concrete.resolved (TypeExpr.parts_trans part inner)

theorem exists_madeFor_of_mem_scan {p : Program} {conv : Conventions} {group : RouteGroup} {e : RouteEntry}
    (isGroup : group ∈ (scan p conv).groups) (isEntry : e ∈ group.entries) :
    ∃ m, e.MadeFor p conv group.path m := by
  obtain ⟨d, _, _, rfl⟩ := unites_of_mem_scan isGroup
  rw [entries_scanGroup] at isEntry
  obtain ⟨m, -, isEntry⟩ := List.mem_flatMap.mp isEntry
  exact ⟨m, madeFor_of_mem_scanMethod isEntry⟩

/-- A route without placeholders has concrete types at its start, since the scan takes no route with a type that
    could not be resolved. -/
theorem concrete_starts {p : Program} {conv : Conventions} {group : RouteGroup} {e : RouteEntry}
    (isGroup : group ∈ (scan p conv).groups) (isEntry : e ∈ group.entries) (closed : e.IsClosed) :
    ∀ t ∈ (Expansion.route e).starts, t.Concrete := by
  obtain ⟨m, made⟩ := exists_madeFor_of_mem_scan isGroup isEntry
  have sound := made.sound
  intro t mem
  rcases List.mem_append.mp mem with isType | isPayload
  · obtain ⟨param, isInput, rfl⟩ := List.mem_map.mp isType
    obtain ⟨isParam, -⟩ := List.mem_filter.mp isInput
    exact ⟨closed.params param isParam, sound.params param isParam⟩
  · cases shape : e.returns with
    | payload declared value isAsync =>
        rw [shape, Option.mem_toList] at isPayload
        obtain ⟨_, -, -, payloads⟩ := mem_parts_of_ofSignature (made.handled.returns.symm.trans shape)
        refine ⟨fun name inner => ?_, (sound.returns _ _ _ shape).2 t isPayload⟩
        exact closed.returns _ _ _ shape name (TypeExpr.parts_trans (payloads t isPayload) inner)
    | _ => simp [shape, ReturnShape.payload?] at isPayload

/-- In a pass over routes that mention no placeholders, all members are concrete but those that a serialized
    field of a member declares otherwise. -/
theorem concrete_up_to_fields {p : Program} {o : Options} (loaded : p.Loaded)
    (closed : ∀ group ∈ (generate p o).groups, ∀ e ∈ group.entries, e.IsClosed) : ConcreteUpToFields p o := by
  have members : ∀ u ∈ (generate p o).types.members, u.Concrete ∨
      ∃ t ∈ (generate p o).types.members, ∃ f, (o.graph p).HasField t f ∧ u ∈ f.type.parts := by
    intro u mem
    obtain ⟨group, isGroup, e, isEntry, t, isStart, visits, -⟩ := (mem_types_generate loaded).mp mem
    rcases TypeGraph.Visits.origin visits with part | ⟨s, f, reaches, isField, part⟩
    · have concrete := concrete_starts isGroup isEntry (closed group isGroup e isEntry) t isStart
      exact Or.inl (concrete.of_mem_parts part)
    · refine Or.inr ⟨s, ?_, f, isField, part⟩
      exact (mem_types_generate loaded).mpr ⟨group, isGroup, e, isEntry, t, isStart, reaches⟩
  have file := SchemaRegistry.writtenTo_artifact? o.conventions (generate p o).types
  rw [← artifact?_serialization] at file
  refine ⟨members, ?_, SchemaRegistry.types_ofTypes _ _, file⟩
  by_cases all : ∀ u ∈ (generate p o).types.members, u.Concrete
  · exact Or.inl all
  · push Not at all
    obtain ⟨u, mem, notConcrete⟩ := all
    obtain ⟨t, isMember, f, isField, part⟩ := (members u mem).resolve_left notConcrete
    exact Or.inr ⟨t, isMember, f, isField, fun concrete => notConcrete (concrete.of_mem_parts part)⟩

/-!
### A placeholder in a field

A generic type is handed out with an argument, and its field mentions the parameter. Two of the types that are
handed out with it have the same last segment.
-/

/-- The text of the dump. -/
def pageText : String :=
  "\x7b\"types\":[\x7b\"path\":\"W\",\"generics\":[\"T\"]," ++
    "\"fields\":[\x7b\"name\":\"w\",\"type\":\"p::P<$T>\"\x7d]\x7d,\x7b\"path\":\"P\"\x7d,\x7b\"path\":\"p::P\"\x7d," ++
    "\x7b\"path\":\"A\",\"attributes\":[\x7b\"name\":\"r::RouteGroup\"\x7d],\"methods\":[\x7b\"name\":\"g\"," ++
    "\"returns\":\"M<P,W<u8>,p::P>\",\"attributes\":[\x7b\"name\":\"r::HttpGet\"\x7d]\x7d]\x7d]\x7d"

/-- What the route of the dump hands out. -/
def pageResult : TypeExpr :=
  .named "M" [.named "P" [], .named "W" [.named "u8" []], .named "p::P" []]

/-- The declarations of the dump. -/
def pageDeclarations : List Declaration :=
  [{ path := "W", generics := ["T"], fields := [{ name := "w", type := .named "p::P" [.param "T"] }] },
   { path := "P" }, { path := "p::P" },
   { path := "A", attributes := [⟨"r::RouteGroup", [], []⟩],
     methods := [{ name := "g", returns := some pageResult, attributes := [⟨"r::HttpGet", [], []⟩] }] }]

/-- The program of the dump. -/
def pageProgram : Program := .ofDeclarations pageDeclarations

/-- The settings of the pass. -/
def pageOptions : Options := { conventions := .ofNamespace "r" }

/-- The route of the dump. -/
def pageRoute : RouteEntry :=
  { group := "A", handler := "g", template := "", verbs := .singleton .get, params := [],
    returns := .payload pageResult (some pageResult) false, attributes := [], isStatic := false, isAsync := false }

set_option maxRecDepth 4000 in
theorem pageProgram_loaded : pageProgram.Loaded := by
  apply @Program.Loaded.ofJson pageText
  case reads =>
    delta pageText
    simp only [String.reduceAppend, String.reduceToList]
    repeat first
      | exact Json.ReadsText.close
      | apply Json.ReadsText.char (by decide)
      | exact Json.ReadsItems.close
      | exact Json.ReadsMembers.close
      | apply Json.ReadsValue.text
      | apply Json.ReadsValue.list
      | apply Json.ReadsValue.object
      | apply Json.ReadsItems.item
      | apply Json.ReadsMembers.member
      | apply Json.ReadsItems.first (by decide) (by decide)
      | apply Json.ReadsItems.next (by decide) (by decide)
      | apply Json.ReadsMembers.first (by decide) (by decide)
      | apply Json.ReadsMembers.next (by decide) (by decide)
  case returns => cbv

theorem groups_pageProgram : (generate pageProgram pageOptions).groups = [⟨"A", "", [pageRoute]⟩] := by
  change (scan pageProgram (.ofNamespace "r")).groups = _
  decide +kernel

theorem pageProgram_closed :
    ∀ group ∈ (generate pageProgram pageOptions).groups, ∀ e ∈ group.entries, e.IsClosed := by
  rw [groups_pageProgram]
  simp only [List.mem_singleton, forall_eq]
  refine ⟨nofun, ?_⟩
  rintro _ _ _ ⟨⟩ name mem
  simp [pageResult, TypeExpr.parts, TypeExpr.partsOf] at mem

theorem concrete_up_to_fields_page :
    pageProgram.Loaded ∧
      (∀ group ∈ (generate pageProgram pageOptions).groups, ∀ e ∈ group.entries, e.IsClosed) ∧
      ConcreteUpToFields pageProgram pageOptions :=
  ⟨pageProgram_loaded, pageProgram_closed, concrete_up_to_fields pageProgram_loaded pageProgram_closed⟩

/-- The members of the pass. -/
def pageTypes : TypeSet where
  members := [.named "P" [], .named "W" [.named "u8" []], .named "p::P" [], .named "p::P" [.param "T"]]
  ordered := by decide +kernel

/-- The types that are met on the way to them. -/
def pageMet : List TypeExpr := pageResult :: .named "u8" [] :: .param "T" :: pageTypes.members

theorem reaches_pageResult {u : TypeExpr} :
    (pageOptions.graph pageProgram).Reaches pageResult u ↔ u ∈ pageTypes.members := by
  have visit_cases : (∀ t ∈ pageMet, ∀ v ∈ ((pageOptions.graph pageProgram).visit t).next, v ∈ pageMet) ∧
      ∀ t ∈ pageMet, t ∈ pageTypes.members ∨
        (pageOptions.graph pageProgram).visit t = .through ((pageOptions.graph pageProgram).visit t).next := by
    decide +kernel
  obtain ⟨stays, passed⟩ := visit_cases
  constructor
  · rintro ⟨visits, isMember⟩
    have met := TypeGraph.mem_of_visits stays List.mem_cons_self visits
    obtain ⟨next, visited⟩ := TypeGraph.isMember_iff.mp isMember
    refine (passed u met).resolve_right fun through => ?_
    rw [visited] at through
    cases through
  · intro mem
    have found : ∀ t ∈ pageTypes.members,
        (t ∈ ((pageOptions.graph pageProgram).visit pageResult).next ∨
          .named "W" [.named "u8" []] ∈ ((pageOptions.graph pageProgram).visit pageResult).next ∧
            t ∈ ((pageOptions.graph pageProgram).visit (.named "W" [.named "u8" []])).next) ∧
        (pageOptions.graph pageProgram).visit t = .member ((pageOptions.graph pageProgram).visit t).next := by
      decide +kernel
    obtain ⟨visits, isMember⟩ := found u mem
    refine ⟨?_, TypeGraph.isMember_iff.mpr ⟨_, isMember⟩⟩
    rcases visits with direct | ⟨first, second⟩
    · exact .single (TypeGraph.mem_next_iff.mp direct)
    · exact .tail (.single (TypeGraph.mem_next_iff.mp first)) (TypeGraph.mem_next_iff.mp second)

theorem types_pageProgram : (generate pageProgram pageOptions).types = pageTypes := by
  apply TypeSet.ext_members
  intro u
  have starts : (Expansion.route pageRoute).starts = [pageResult] := rfl
  rw [mem_types_generate pageProgram_loaded, groups_pageProgram, ← reaches_pageResult]
  simp only [List.mem_singleton, exists_eq_left, starts]

/-- All the same the type of the field is a member as it was declared, with its placeholder. -/
theorem placeholder_in_members :
    pageProgram.Loaded ∧
      (∀ group ∈ (generate pageProgram pageOptions).groups, ∀ e ∈ group.entries, e.IsClosed) ∧
      ∃ u ∈ (generate pageProgram pageOptions).types.members, ¬ u.Concrete := by
  refine ⟨pageProgram_loaded, pageProgram_closed, .named "p::P" [.param "T"], ?_, ?_⟩
  · rw [types_pageProgram]
    decide +kernel
  · intro concrete
    exact concrete.closed "T" (by decide)

end RouteScribe
