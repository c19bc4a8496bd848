/-
Module: RouteScribe.Proofs.Generation.DeclarationOrder
Layer: Proofs
Purpose: What a pass yields when the declarations of a program change places and the parts of each type keep
  their order. Every path then leads to the same type, and all that is read off a type depends on the
  program only in the types that paths lead to. So the groups are the same ones in another order, and the
  members, which are known by what can be reached, are the same set; the file for the serializer is
  written from that set alone.
Imports: RouteScribe.Proofs.Dump.RoundTrip, RouteScribe.Proofs.Generation.OutputMirror,
  RouteScribe.Proofs.Reachability.RouteMembers
Trusted boundary: human-reviewed spec
Main exports: Reorders, Generation.SameUpToOrder, Reorders.resolve_eq, scanGroup_eq, generate_reordered
Open obligations: none
-/
import RouteScribe.Proofs.Dump.RoundTrip
import RouteScribe.Proofs.Generation.OutputMirror
import RouteScribe.Proofs.Reachability.RouteMembers

namespace RouteScribe

/-!
### The specification
-/

/-- The same declarations in another order, in which the parts of each type stand in the same order. -/
structure Reorders (ds ds' : List Declaration) : Prop where
  perm : ds.Perm ds'
  parts : ∀ path, partsAt ds path = partsAt ds' path

/-- `a.SameUpToOrder b` says that two passes find the same, if in another order, and write the same file for the
    serializer or none. -/
structure Generation.SameUpToOrder (a b : Generation) : Prop where
  types : a.types = b.types
  serialization : a.artifact? .serialization = b.artifact? .serialization
  /-- A group of the one pass is a group of the other with its prefix and its routes. -/
  groups : a.groups.Perm b.groups
  diagnostics : a.diagnostics.Perm b.diagnostics

/-!
### Types of reordered declarations
-/

theorem Program.eq_ofDeclarations (p : Program) : p = .ofDeclarations p.declarations := by
  obtain ⟨declarations, types, rfl⟩ := p
  rfl

/-- A declared path leads to a type that says what its parts say. -/
theorem Program.exists_resolve {p : Program} {path : String} (declared : path ∈ pathsOf p.declarations) :
    ∃ d, p.resolve path = some d ∧ d.path = path ∧ d.Unites (partsAt p.declarations path) := by
  obtain ⟨d, isType, rfl⟩ := List.mem_map.mp ((p.merges.declared path).mpr declared)
  refine ⟨d, ?_, rfl, p.merges.unites d isType⟩
  rw [p.eq_ofDeclarations] at isType ⊢
  exact Program.resolve_eq_some_iff.mpr ⟨isType, rfl⟩

namespace Reorders

variable {p p' : Program}

/-- Every path leads to the same type. -/
theorem resolve_eq (reorders : Reorders p.declarations p'.declarations) : p.resolve = p'.resolve := by
  have samePaths : (pathsOf p.declarations).Perm (pathsOf p'.declarations) := reorders.perm.map _
  funext path
  by_cases declared : path ∈ pathsOf p.declarations
  · obtain ⟨d, found, isPath, unites⟩ := p.exists_resolve declared
    obtain ⟨e, found', isPath', unites'⟩ := p'.exists_resolve (samePaths.mem_iff.mp declared)
    rw [← reorders.parts path] at unites'
    rw [found, found', unites.unique unites' (isPath.trans isPath'.symm)]
  · have declared' : path ∉ pathsOf p'.declarations := fun mem => declared (samePaths.mem_iff.mpr mem)
    rw [p.eq_ofDeclarations, p'.eq_ofDeclarations, Program.resolve_eq_none_iff.mpr declared,
      Program.resolve_eq_none_iff.mpr declared']

end Reorders

/-!
### What depends on the types alone

Programs in which every path leads to the same type agree on the roles of attributes, on the routes of a type and
on what a type leads to.
-/

section

variable {p p' : Program} (same : p.resolve = p'.resolve)
include same

theorem baseStep_eq : p.BaseStep = p'.BaseStep := by
  funext d e
  simp only [Program.BaseStep, same]

theorem derivesFrom_eq : p.derivesFrom = p'.derivesFrom := by
  funext path base
  rw [Bool.eq_iff_iff, Program.derivesFrom_iff, Program.derivesFrom_iff]
  simp only [Program.Derives, same, baseStep_eq same]

theorem markerRole_eq : markerRole p = markerRole p' := by
  funext conv a
  simp only [markerRole, derivesFrom_eq same]

theorem readMarker_eq : readMarker p = readMarker p' := by
  funext conv a
  simp only [readMarker, markerRole_eq same]

theorem scanMethod_eq : scanMethod p = scanMethod p' := by
  have markers : routeMarkers p = routeMarkers p' := by
    funext conv attributes
    simp only [routeMarkers, readMarker_eq same]
  have findings : markerFindings p = markerFindings p' := by
    funext conv attributes
    simp only [markerFindings, readMarker_eq same]
  have others : withoutMarkers p = withoutMarkers p' := by
    funext conv attributes
    simp only [withoutMarkers, markerRole_eq same]
  funext conv group m
  rw [scanMethod, scanMethod, markers, findings, others]

theorem scanGroup_eq : scanGroup p = scanGroup p' := by
  funext conv d
  simp only [scanGroup, scanMethod_eq same]

variable {o : Options} {t u : TypeExpr}

theorem shape_of_same {path : String} {args : List TypeExpr} {d : Declaration}
    (shape : (o.graph p).Shape path args d) : (o.graph p').Shape path args d where
  notGiven := shape.notGiven
  declared := same ▸ shape.declared
  kind := shape.kind
  concrete := shape.concrete

theorem visits_of_same (visits : (o.graph p).Visits t u) : (o.graph p').Visits t u := by
  cases visits with
  | element => exact .element
  | inner => exact .inner
  | undeclared notGiven undeclared mem => exact .undeclared notGiven (same ▸ undeclared) mem
  | argument shape mem => exact .argument (shape_of_same same shape) mem
  | field shape contributes mem serialized =>
      have steps := baseStep_eq same
      refine .field (shape_of_same same shape) ?_ mem ⟨serialized.1, serialized.2, serialized.3⟩
      rcases contributes with isSame | ⟨inherited, contributes⟩
      · exact Or.inl isSame
      · exact Or.inr ⟨inherited, steps ▸ contributes⟩

theorem reaches_of_same (reaches : (o.graph p).Reaches t u) : (o.graph p').Reaches t u := by
  obtain ⟨visits, path, args, d, isNamed, shape⟩ := reaches
  exact ⟨visits.lift id fun _ _ => visits_of_same same, path, args, d, isNamed, shape_of_same same shape⟩

end

/-!
### Passes
-/

theorem nodup_groupPaths (p : Program) (conv : Conventions) : (groupPaths p conv).Nodup :=
  (pairwise_firstMark conv p.declarations).imp fun less same => by simp [same] at less

namespace Reorders

variable {p p' : Program} {o : Options}

theorem groupPaths_perm (reorders : Reorders p.declarations p'.declarations) (conv : Conventions) :
    (groupPaths p conv).Perm (groupPaths p' conv) := by
  rw [List.perm_ext_iff_of_nodup (nodup_groupPaths p conv) (nodup_groupPaths p' conv)]
  intro path
  rw [mem_groupPaths, mem_groupPaths]
  simp only [reorders.perm.mem_iff]

/-- The types with their groups and what is wrong with these, in the order of either program. -/
theorem scanned_perm (reorders : Reorders p.declarations p'.declarations) (conv : Conventions) :
    ((groupTypes p conv).map (scanGroup p conv)).Perm ((groupTypes p' conv).map (scanGroup p' conv)) := by
  rw [groupTypes, groupTypes, scanGroup_eq reorders.resolve_eq, reorders.resolve_eq]
  exact ((reorders.groupPaths_perm conv).filterMap _).map _

theorem groups_perm (reorders : Reorders p.declarations p'.declarations) (conv : Conventions) :
    (scan p conv).groups.Perm (scan p' conv).groups :=
  (reorders.scanned_perm conv).map Prod.fst

theorem diagnostics_perm (reorders : Reorders p.declarations p'.declarations) (conv : Conventions) :
    (scan p conv).diagnostics.Perm (scan p' conv).diagnostics :=
  (reorders.scanned_perm conv).flatMap_right Prod.snd

/-- What one pass finds to be a member, the other one does. -/
theorem mem_types_of_mem (reorders : Reorders p.declarations p'.declarations) (loaded : p.Loaded)
    (loaded' : p'.Loaded) {u : TypeExpr} (mem : u ∈ (generate p o).types.members) :
    u ∈ (generate p' o).types.members := by
  obtain ⟨group, isGroup, e, isEntry, t, isStart, reaches⟩ := (mem_types_generate loaded).mp mem
  have isGroup' : group ∈ (generate p' o).groups := (reorders.groups_perm o.conventions).mem_iff.mp isGroup
  exact (mem_types_generate loaded').mpr
    ⟨group, isGroup', e, isEntry, t, isStart, reaches_of_same reorders.resolve_eq reaches⟩

theorem symm {ds ds' : List Declaration} (reorders : Reorders ds ds') : Reorders ds' ds :=
  ⟨reorders.perm.symm, fun path => (reorders.parts path).symm⟩

end Reorders

/-- A pass over the declarations of a dump in another order, in which the parts of each type keep their order,
    finds the same members, groups and diagnostics and writes the same file for the serializer. -/
theorem generate_reordered {p p' : Program} (o : Options) (loaded : p.Loaded) (loaded' : p'.Loaded)
    (reorders : Reorders p.declarations p'.declarations) :
    (generate p o).SameUpToOrder (generate p' o) := by
  have types : (generate p o).types = (generate p' o).types := by
    apply TypeSet.ext_members
    intro u
    exact ⟨reorders.mem_types_of_mem loaded loaded', reorders.symm.mem_types_of_mem loaded' loaded⟩
  refine ⟨types, ?_, reorders.groups_perm o.conventions, reorders.diagnostics_perm o.conventions⟩
  rw [artifact?_serialization, artifact?_serialization, types]

/-- A part of a group that is marked as one. -/
def listingPart : Declaration :=
  { path := "A", attributes := [⟨"r::RouteGroup", [], []⟩],
    methods := [{ name := "all", returns := some (.array (.named "N" [])),
                  attributes := [⟨"r::HttpGet", [], []⟩] }] }

/-- Another part of the group, without a group marker. -/
def editingPart : Declaration :=
  { path := "A",
    methods := [{ name := "drop", returns := some (.named "N" []), attributes := [⟨"r::HttpDelete", [], []⟩] }] }

/-- What the group lists. -/
def listedItem : Declaration :=
  { path := "N", fields := [{ name := "next", type := .optional (.named "N" []) }] }

/-- A second group. -/
def lookingGroup : Declaration :=
  { path := "B", attributes := [⟨"r::RouteGroup", [], []⟩],
    methods := [{ name := "look", attributes := [⟨"r::HttpHead", [], []⟩] }] }

/-- The group's parts with the listed item between them. -/
def scatteredParts : List Declaration := [listingPart, listedItem, editingPart, lookingGroup]

/-- The group's parts next to each other, behind the second group. -/
def gatheredParts : List Declaration := [lookingGroup, listingPart, editingPart, listedItem]

theorem written_scatteredParts : ∀ d ∈ scatteredParts, d.Written := by
  have item : (TypeExpr.named "N" []).Writable := TypeExpr.writable_iff.mpr ⟨"N", by cbv⟩
  have ofMethod {d : Declaration} {m : Method} (onlyMethod : d.methods = [m]) (noField : d.fields = [])
      (noBase : d.base = none) (noParam : m.params = []) (returns : ∀ t ∈ m.returns, t.Writable) :
      d.Written := by
    refine ⟨by simp [noBase], by simp [noField], ?_⟩
    rw [onlyMethod, List.forall_mem_singleton]
    exact ⟨by simp [noParam], returns⟩
  intro d mem
  simp only [scatteredParts, List.mem_cons, List.not_mem_nil, or_false] at mem
  rcases mem with rfl | rfl | rfl | rfl
  · exact ofMethod rfl rfl rfl rfl (by simpa using TypeExpr.Writable.array item)
  · exact ⟨by simp [listedItem], List.forall_mem_singleton.mpr (.optional item), by simp [listedItem]⟩
  · exact ofMethod rfl rfl rfl rfl (by simpa using item)
  · exact ofMethod rfl rfl rfl rfl (by simp)

theorem reorders_scatteredParts : Reorders scatteredParts gatheredParts where
  perm := by decide
  parts path := by
    by_cases isGroup : "A" = path
    · subst path
      decide
    by_cases isSecond : "B" = path
    · subst path
      decide
    · simp [partsAt, scatteredParts, gatheredParts, listingPart, editingPart, listedItem, lookingGroup,
        List.filter_cons, isGroup, isSecond]

/-- The groups change places, nothing else does. -/
theorem generate_reordered_parts :
    let o : Options := { conventions := .ofNamespace "r" }
    let p : Program := .ofDeclarations scatteredParts
    let p' : Program := .ofDeclarations gatheredParts
    p.Loaded ∧ p'.Loaded ∧ Reorders scatteredParts gatheredParts ∧
      (generate p o).SameUpToOrder (generate p' o) ∧ (generate p o).groups ≠ (generate p' o).groups := by
  intro o p p'
  have loaded : p.Loaded := .ofKept written_scatteredParts (by decide)
  have written' (d : Declaration) (mem : d ∈ gatheredParts) : d.Written :=
    written_scatteredParts d (reorders_scatteredParts.perm.mem_iff.mpr mem)
  have loaded' : p'.Loaded := .ofKept written' (by decide)
  refine ⟨loaded, loaded', reorders_scatteredParts, ?_, ?_⟩
  · exact generate_reordered o loaded loaded' reorders_scatteredParts
  · decide +kernel

end RouteScribe
