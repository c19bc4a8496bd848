/-
Module: RouteScribe.Proofs.Routes.ScannedGroups
Layer: Proofs
Purpose: What can be relied on in the groups of a scan. There is one group for each type that has a group marker on
  some part, in the order of the first marked parts, made from the type with all of its parts. A prefix
  has no slash at either end; a route names its group, answers to some verb, takes at most one request
  context, and mentions neither a marker nor a type that could not be resolved.
Imports: RouteScribe.Proofs.Declarations.Merging, RouteScribe.Proofs.Routes.MarkerAccount
Trusted boundary: human-reviewed spec
Main exports: firstMark, RouteEntry.Sound, WellScanned, RouteEntry.MadeFor, wellScanned_scan
Open obligations: none
-/
import RouteScribe.Proofs.Declarations.Merging
import RouteScribe.Proofs.Routes.MarkerAccount

namespace RouteScribe

/-!
### The specification
-/

/-- Whether a declaration is a part of the type at a path and has a group marker. -/
def marks (conv : Conventions) (path : String) (d : Declaration) : Bool :=
  d.path == path && hasAttribute d.attributes conv.groupMarker

/-- The place of the first marked part of a type among the declarations. -/
def firstMark (p : Program) (conv : Conventions) (path : String) : Nat :=
  p.declarations.findIdx (marks conv path)

/-- Whether a parameter has the type of a request context. -/
def RouteParam.HasContextType (conv : Conventions) (param : RouteParam) : Prop :=
  param.type.path? = some conv.contextType

/-- `e.Sound p conv group` says what can be relied on in a route `e` of the group at the path `group`. -/
structure RouteEntry.Sound (p : Program) (conv : Conventions) (group : String) (e : RouteEntry) : Prop where
  group : e.group = group
  verbs : e.verbs.verbs ≠ []
  /-- The request context is the first parameter of its type, -/
  isContext : ∀ i param, e.params[i]? = some param →
    (param.isContext = true ↔
      param.HasContextType conv ∧ ∀ earlier ∈ e.params.take i, ¬ earlier.HasContextType conv)
  /-- of which there is one at most. -/
  oneContext : (e.params.filter (·.isContext)).length ≤ 1
  noMarker : ∀ a ∈ e.attributes, ¬ IsMarker p conv a
  /-- All types could be resolved, with all their parts. -/
  params : ∀ param ∈ e.params, .unresolved ∉ param.type.parts
  returns : ∀ declared value isAsync, e.returns = .payload declared value isAsync →
    .unresolved ∉ declared.parts ∧ ∀ payload ∈ value, .unresolved ∉ payload.parts

/-- `WellScanned p conv groups` says what can be relied on in the groups of a program. -/
structure WellScanned (p : Program) (conv : Conventions) (groups : List RouteGroup) : Prop where
  /-- There is one group for each type that has a marked part, -/
  distinct : (groups.map (·.path)).Nodup
  marked : ∀ path, path ∈ groups.map (·.path) ↔
    ∃ d ∈ p.declarations, d.path = path ∧ hasAttribute d.attributes conv.groupMarker = true
  /-- in the order of the first marked parts. -/
  ordered : groups.Pairwise fun g h => firstMark p conv g.path < firstMark p conv h.path
  /-- All parts of the type count, marked or not. -/
  pathPrefix : ∀ g ∈ groups, g.pathPrefix =
    (groupPrefix conv ((partsAt p.declarations g.path).flatMap (·.attributes))).1
  entries : ∀ g ∈ groups, g.entries =
    (((partsAt p.declarations g.path).flatMap (·.methods)).filter (·.isPublic)).flatMap fun m =>
      (scanMethod p conv g.path m).1
  /-- No prefix has a slash at either end. -/
  trimmed : ∀ g ∈ groups,
    g.pathPrefix.toList.head? ≠ some '/' ∧ g.pathPrefix.toList.getLast? ≠ some '/'
  sound : ∀ g ∈ groups, ∀ e ∈ g.entries, e.Sound p conv g.path

/-!
### Groups
-/

section

variable {p : Program} {conv : Conventions}

theorem mem_firstOccurrences {x : String} {xs : List String} : x ∈ firstOccurrences xs ↔ x ∈ xs := by
  refine ⟨mem_of_mem_firstOccurrences, fun mem => ?_⟩
  induction xs with
  | nil => cases mem
  | cons y ys ih =>
      rw [firstOccurrences, List.mem_cons, List.mem_filter, bne_iff_ne]
      by_cases same : x = y
      · exact Or.inl same
      · exact Or.inr ⟨ih (List.mem_of_ne_of_mem same mem), same⟩

theorem mem_groupPaths {path : String} :
    path ∈ groupPaths p conv ↔
      ∃ d ∈ p.declarations, d.path = path ∧ hasAttribute d.attributes conv.groupMarker = true := by
  rw [groupPaths, mem_firstOccurrences, List.mem_map]
  constructor
  · rintro ⟨d, mem, same⟩
    obtain ⟨mem, marked⟩ := List.mem_filter.mp mem
    exact ⟨d, mem, same, marked⟩
  · rintro ⟨d, mem, same, marked⟩
    exact ⟨d, List.mem_filter.mpr ⟨mem, marked⟩, same⟩

/-- The paths stand in the order of the first marked declarations. -/
theorem pairwise_firstMark (conv : Conventions) (ds : List Declaration) :
    (firstOccurrences ((ds.filter fun d => hasAttribute d.attributes conv.groupMarker).map (·.path))).Pairwise
      fun path path' => ds.findIdx (marks conv path) < ds.findIdx (marks conv path') := by
  induction ds with
  | nil => exact .nil
  | cons d ds ih =>
      by_cases marked : hasAttribute d.attributes conv.groupMarker = true
      · rw [List.filter_cons, if_pos marked, List.map_cons, firstOccurrences]
        -- the marked declaration in front comes first for its own path and is passed over for all others
        have own : (d :: ds).findIdx (marks conv d.path) = 0 := by simp [List.findIdx_cons, marks, marked]
        have other {path : String} (differs : path ≠ d.path) :
            (d :: ds).findIdx (marks conv path) = ds.findIdx (marks conv path) + 1 := by
          have apart : (d.path == path) = false := beq_false_of_ne (Ne.symm differs)
          simp [List.findIdx_cons, marks, apart]
        refine List.pairwise_cons.mpr ⟨fun path mem => ?_, ?_⟩
        · rw [own, other (by simpa using (List.mem_filter.mp mem).2)]
          exact Nat.succ_pos _
        · refine (ih.filter _).imp_of_mem fun mem mem' less => ?_
          rw [other (by simpa using (List.mem_filter.mp mem).2), other (by simpa using (List.mem_filter.mp mem').2)]
          omega
      · rw [List.filter_cons, if_neg marked]
        have passed (path : String) :
            (d :: ds).findIdx (marks conv path) = ds.findIdx (marks conv path) + 1 := by
          simp [List.findIdx_cons, marks, marked]
        refine ih.imp fun less => ?_
        rw [passed, passed]
        omega

/-- Merged declarations are those of the types. -/
theorem Program.merges (p : Program) : Merges p.declarations p.types := by
  rw [p.types_eq]
  exact merges_mergeParts p.declarations

/-- Every path of a marked declaration leads to its type. -/
theorem pathsOf_groupTypes : pathsOf (groupTypes p conv) = groupPaths p conv := by
  have resolved (paths : List String) (declared : ∀ path ∈ paths, path ∈ pathsOf p.types) :
      pathsOf (paths.filterMap p.resolve) = paths := by
    induction paths with
    | nil => rfl
    | cons path paths ih =>
        obtain ⟨first, others⟩ := List.forall_mem_cons.mp declared
        obtain ⟨d, isType, same⟩ := List.mem_map.mp first
        cases found : p.resolve path with
        | none =>
            have differs := List.find?_eq_none.mp found d isType
            simp [same] at differs
        | some e =>
            rw [List.filterMap_cons_some found, pathsOf, List.map_cons, ← pathsOf, ih others,
              (Program.resolve_some found).2]
  refine resolved _ fun path mem => (p.merges.declared path).mpr ?_
  obtain ⟨d, isDeclaration, same, -⟩ := mem_groupPaths.mp mem
  exact same ▸ mem_pathsOf_of_mem isDeclaration

theorem groups_scan : (scan p conv).groups = (groupTypes p conv).map fun d => (scanGroup p conv d).1 := by
  simp [scan, groupTypes, Function.comp_def]

/-- Every group of a scan was made from a type, which all of its parts make up. -/
theorem unites_of_mem_scan {g : RouteGroup} (mem : g ∈ (scan p conv).groups) :
    ∃ d : Declaration, d.path = g.path ∧ d.Unites (partsAt p.declarations g.path) ∧
      g = (scanGroup p conv d).1 := by
  rw [groups_scan] at mem
  obtain ⟨d, isType, rfl⟩ := List.mem_map.mp mem
  exact ⟨d, rfl, p.merges.unites d (mem_types_of_mem_groupTypes isType), rfl⟩

theorem groupPrefix_trimmed (conv : Conventions) (attributes : List Attribute) :
    (groupPrefix conv attributes).1.toList.head? ≠ some '/' ∧
      (groupPrefix conv attributes).1.toList.getLast? ≠ some '/' := by
  have root : "".toList.head? ≠ some '/' ∧ "".toList.getLast? ≠ some '/' := by decide
  rw [groupPrefix]
  split
  · exact root
  · split
    · exact root
    · exact ⟨RoutePath.head?_normalizePrefix _, RoutePath.getLast?_normalizePrefix _⟩
    · exact root

end

/-!
### Routes
-/

section

variable {p : Program} {conv : Conventions} {group : String} {m : Method} {e : RouteEntry}

/-- `e.MadeFor p conv group m` says that `e` is a route of the method `m`, all types of which could be
    resolved. -/
structure RouteEntry.MadeFor (p : Program) (conv : Conventions) (group : String) (m : Method)
    (e : RouteEntry) : Prop where
  resolved : m.IsResolved
  group : e.group = group
  marker : e.marker ∈ routeMarkers p conv m.attributes
  handled : e.HandledBy conv m
  attributes : e.attributes = withoutMarkers p conv m.attributes

theorem madeFor_of_mem_scanMethod (mem : e ∈ (scanMethod p conv group m).1) : e.MadeFor p conv group m := by
  have handled := handledBy_of_mem_scanMethod mem
  simp only [scanMethod] at mem
  split at mem
  · cases mem
  · split at mem
    · cases mem
    · rename_i resolved
      obtain ⟨marker, isMarker, rfl⟩ := List.mem_map.mp mem
      exact ⟨unresolvedType?_none.mp resolved, rfl, isMarker, handled, rfl⟩

/-- A marker that makes a route has some verb. -/
theorem verbs_ne_nil_of_settles {a : Attribute} {marker : RouteMarker} (settles : Settles p conv a (.route marker)) :
    marker.verbs.verbs ≠ [] := by
  have some {verbs : List Verb} (some : verbs ≠ []) : (VerbSet.ofList verbs).verbs ≠ [] := fun none =>
    some (VerbSet.isEmpty_ofList.mp (List.isEmpty_iff.mpr none))
  cases settles with
  | bareVerb => exact some (List.cons_ne_nil _ _)
  | verb => exact some (List.cons_ne_nil _ _)
  | verbs _ _ usable =>
      obtain ⟨item, mem, names⟩ := usable
      exact some fun none => names (List.filterMap_eq_nil_iff.mp none item mem)

theorem verbs_ne_nil_of_mem_routeMarkers {attributes : List Attribute} {marker : RouteMarker}
    (mem : marker ∈ routeMarkers p conv attributes) : marker.verbs.verbs ≠ [] := by
  obtain ⟨a, -, read⟩ := List.mem_filterMap.mp mem
  by_cases isMarker : IsMarker p conv a
  · obtain ⟨o, settles⟩ := exists_settles isMarker
    rw [settles.readMarker_eq] at read
    cases o with
    | refused why => cases read
    | route other =>
        cases read
        exact verbs_ne_nil_of_settles settles
  · rw [readMarker_of_not isMarker] at read
    cases read

/-- With a request context before them, parameters have none; otherwise it is the first of its type. -/
theorem isContext_routeParams (seen : Bool) (params : List Parameter) {i : Nat} {param : RouteParam}
    (found : (routeParams conv seen params)[i]? = some param) :
    param.isContext = true ↔ seen = false ∧ param.HasContextType conv ∧
      ∀ earlier ∈ (routeParams conv seen params).take i, ¬ earlier.HasContextType conv := by
  induction params generalizing seen i with
  | nil => cases found
  | cons source sources ih =>
      cases i with
      | zero =>
          cases found
          simp [RouteParam.HasContextType, and_comm]
      | succ i =>
          rw [routeParams, List.getElem?_cons_succ] at found
          rw [ih _ found, routeParams, List.take_succ_cons, List.forall_mem_cons]
          cases seen <;> simp [RouteParam.HasContextType]
          tauto

theorem length_contexts_le (seen : Bool) (params : List Parameter) :
    ((routeParams conv seen params).filter (·.isContext)).length ≤ if seen then 0 else 1 := by
  induction params generalizing seen with
  | nil => simp [routeParams]
  | cons source sources ih =>
      have others := ih (seen || source.type.path? == some conv.contextType)
      rw [routeParams, List.filter_cons]
      cases seen with
      | true => simpa using others
      | false =>
          cases isContext : source.type.path? == some conv.contextType with
          | true =>
              rw [isContext] at others
              simpa using others
          | false =>
              rw [isContext] at others
              simpa using others

/-- What a handler hands back is part of its return type, and the payload is part of that. -/
theorem mem_parts_of_ofSignature {returns : Option TypeExpr} {declaredAsync isAsync : Bool}
    {declared : TypeExpr} {value : Option TypeExpr}
    (shape : ReturnShape.ofSignature returns declaredAsync conv = .payload declared value isAsync) :
    ∃ t ∈ returns, declared ∈ t.parts ∧ ∀ payload ∈ value, payload ∈ declared.parts := by
  cases returns with
  | none => cases declaredAsync <;> cases shape
  | some t =>
      refine ⟨t, rfl, ?_⟩
      simp only [ReturnShape.ofSignature] at shape
      split at shape
      · split at shape <;> cases shape
      · rename_i left peeled
        split at shape
        · split at shape <;> cases shape
        · cases shape
          exact ⟨mem_parts_of_peelAsync peeled, fun _ unwrapped => mem_parts_of_unwrapPayload unwrapped⟩

/-- What is made for a method can be relied on. -/
theorem RouteEntry.MadeFor.sound (made : e.MadeFor p conv group m) : e.Sound p conv group where
  group := made.group
  verbs := verbs_ne_nil_of_mem_routeMarkers made.marker
  isContext := by
    intro i param found
    rw [made.handled.params] at found ⊢
    rw [isContext_routeParams false m.params found]
    simp
  oneContext := by
    rw [made.handled.params]
    exact length_contexts_le false m.params
  noMarker := by
    rw [made.attributes]
    exact fun a => not_isMarker_of_mem_withoutMarkers
  params := by
    intro param mem
    rw [made.handled.params] at mem
    obtain ⟨source, isSource, same⟩ := type_mem_of_mem_routeParams mem
    rw [← same]
    exact made.resolved _ (List.mem_append_left _ (List.mem_map_of_mem isSource))
  returns := by
    intro declared value isAsync shape
    rw [made.handled.returns] at shape
    obtain ⟨t, returned, isPart, payloads⟩ := mem_parts_of_ofSignature shape
    have resolved := made.resolved t (List.mem_append_right _ (Option.mem_toList.mpr returned))
    refine ⟨fun unresolved => resolved (TypeExpr.parts_trans isPart unresolved), fun payload mem unresolved => ?_⟩
    exact resolved (TypeExpr.parts_trans isPart (TypeExpr.parts_trans (payloads payload mem) unresolved))

end

/-- The groups of every scan can be relied on. -/
theorem wellScanned_scan (p : Program) (conv : Conventions) : WellScanned p conv (scan p conv).groups := by
  have paths : (scan p conv).groups.map (·.path) = groupPaths p conv := by
    rw [← pathsOf_groupTypes, groups_scan, List.map_map]
    rfl
  have ordered : (groupPaths p conv).Pairwise fun path path' => firstMark p conv path < firstMark p conv path' :=
    pairwise_firstMark conv p.declarations
  refine ⟨?_, ?_, ?_, ?_, ?_, ?_, ?_⟩
  · rw [paths]
    exact ordered.imp fun less same => by simp [same] at less
  · intro path
    rw [paths, mem_groupPaths]
  · rw [← paths, List.pairwise_map] at ordered
    exact ordered
  · intro g mem
    obtain ⟨d, same, unites, rfl⟩ := unites_of_mem_scan mem
    rw [← unites.attributes]
    rfl
  · intro g mem
    obtain ⟨d, same, unites, rfl⟩ := unites_of_mem_scan mem
    rw [← unites.methods, entries_scanGroup]
    rfl
  · intro g mem
    obtain ⟨d, same, unites, rfl⟩ := unites_of_mem_scan mem
    exact groupPrefix_trimmed conv d.attributes
  · intro g mem e isEntry
    obtain ⟨d, same, unites, rfl⟩ := unites_of_mem_scan mem
    rw [entries_scanGroup] at isEntry
    obtain ⟨m, -, isEntry⟩ := List.mem_flatMap.mp isEntry
    exact (madeFor_of_mem_scanMethod isEntry).sound

end RouteScribe
