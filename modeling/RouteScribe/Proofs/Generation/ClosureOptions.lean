/-
Module: RouteScribe.Proofs.Generation.ClosureOptions
Layer: Proofs
Purpose: What the options of the closure do to a pass. Further framework types and inherited fields are looked at
  only on the way from type to type, so the groups, the diagnostics and the files of the groups and the routes
  stay what they are. The members follow the edges of the graph: inherited fields add edges, framework types
  take some away, and a graph with more edges reaches more members, whatever the order of the walk. This holds
  as long as no two types have one text, which is so for the types of a dump.
Imports: RouteScribe.Proofs.Dump.RoundTrip, RouteScribe.Proofs.Generation.OutputMirror,
  RouteScribe.Proofs.Reachability.FiniteWalks
Trusted boundary: human-reviewed spec
Main exports: ClosureOptions, Options.closing, ClosureOptions.LeadsNoFurther, Generation.SameRoutes,
  TypeGraph.Within, TypeGraph.Reaches.mono, scan_supplying, generate_closing, alike_member_lost
Open obligations: none
-/
import RouteScribe.Proofs.Dump.RoundTrip
import RouteScribe.Proofs.Generation.OutputMirror
import RouteScribe.Proofs.Reachability.FiniteWalks

namespace RouteScribe

open Relation (ReflTransGen)

/-!
### The specification
-/

/-- The choices that are about the closure. -/
structure ClosureOptions where
  /-- The framework types that come behind those of the conventions. -/
  frameworkTypes : List String := []
  /-- Whether the fields of base types count as fields of a type. -/
  withInherited : Bool := false
deriving DecidableEq, Repr

/-- The conventions with further framework types. -/
def Conventions.supplying (conv : Conventions) (types : List String) : Conventions :=
  { conv with frameworkTypes := conv.frameworkTypes ++ types }

/-- The options with the given choices about the closure. -/
def Options.closing (o : Options) (c : ClosureOptions) : Options :=
  { o with conventions := o.conventions.supplying c.frameworkTypes, withInherited := c.withInherited }

/-- `c.LeadsNoFurther c'` says that `c` counts inherited fields only if `c'` does, and has all framework types
    of `c'`. -/
structure ClosureOptions.LeadsNoFurther (c c' : ClosureOptions) : Prop where
  inherited : c.withInherited = true → c'.withInherited = true
  framework : ∀ path ∈ c'.frameworkTypes, path ∈ c.frameworkTypes

/-- Whether two passes find the same routes and write the same files for them. -/
structure Generation.SameRoutes (a b : Generation) : Prop where
  groups : a.groups = b.groups
  diagnostics : a.diagnostics = b.diagnostics
  registration : a.artifact? .registration = b.artifact? .registration
  dispatch : a.artifact? .dispatch = b.artifact? .dispatch

/-!
### Routes

Nothing on the way to the routes and their files asks for the framework types.
-/

section

variable (conv : Conventions) (types : List String)

theorem routeParams_supplying (seen : Bool) (params : List Parameter) :
    routeParams (conv.supplying types) seen params = routeParams conv seen params := by
  induction params generalizing seen with
  | nil => rfl
  | cons param params ih => exact congrArg (List.cons _) (ih _)

mutual

theorem unwrapPayload_supplying (t : TypeExpr) :
    unwrapPayload (conv.supplying types) t = unwrapPayload conv t := by
  match t with
  | .named path args =>
      have first := firstPayload_supplying args
      match args with
      | [] => simp only [unwrapPayload, first]; rfl
      | [inner] => simp only [unwrapPayload, first, unwrapPayload_supplying inner]; rfl
      | _ :: _ :: _ => simp only [unwrapPayload, first]; rfl
  | .array _ | .optional _ | .param _ | .unresolved => rfl

theorem firstPayload_supplying (ts : List TypeExpr) :
    firstPayload (conv.supplying types) ts = firstPayload conv ts := by
  cases ts with
  | nil => rfl
  | cons t ts => rw [firstPayload, firstPayload, unwrapPayload_supplying t, firstPayload_supplying ts]

end

theorem peelAsync_supplying (t : TypeExpr) :
    ReturnShape.peelAsync (conv.supplying types) t = ReturnShape.peelAsync conv t := by
  match t with
  | .named path [] => rfl
  | .named path (arg :: args) =>
      rw [ReturnShape.peelAsync, ReturnShape.peelAsync, peelAsync_supplying arg]
      rfl
  | .array _ | .optional _ | .param _ | .unresolved => rfl

theorem scanMethod_supplying (p : Program) : scanMethod p (conv.supplying types) = scanMethod p conv := by
  funext group m
  simp only [scanMethod, ReturnShape.ofSignature, peelAsync_supplying, unwrapPayload_supplying,
    routeParams_supplying]
  rfl

theorem scanGroup_supplying (p : Program) : scanGroup p (conv.supplying types) = scanGroup p conv := by
  funext d
  simp only [scanGroup, scanMethod_supplying]
  rfl

/-- The scan finds the same groups and reports the same. -/
theorem scan_supplying (p : Program) : scan p (conv.supplying types) = scan p conv := by
  simp only [scan, scanGroup_supplying]
  rfl

theorem ofRoutes_supplying (uses : UseBlock) (place : Nat) (routes : List (RouteGroup × RouteEntry)) :
    TableRow.ofRoutes (conv.supplying types) uses place routes = TableRow.ofRoutes conv uses place routes := by
  induction routes generalizing uses place with
  | nil => rfl
  | cons route routes ih =>
      simp only [TableRow.ofRoutes, ih]
      rfl

theorem groupRegistry_supplying (groups : List RouteGroup) :
    GroupRegistry.artifact? (conv.supplying types) groups = GroupRegistry.artifact? conv groups := rfl

theorem routeTable_supplying (groups : List RouteGroup) :
    RouteTable.artifact? (conv.supplying types) groups = RouteTable.artifact? conv groups := by
  simp only [RouteTable.artifact?, RouteTable.ofGroups, ofRoutes_supplying]
  rfl

end

/-- With other choices about the closure, a pass finds the routes that it finds without any. -/
theorem sameRoutes_closing (p : Program) (o : Options) (c : ClosureOptions) :
    (generate p (o.closing c)).SameRoutes (generate p o) := by
  have scanned : scan p (o.closing c).conventions = scan p o.conventions := scan_supplying _ _ p
  constructor
  case groups => exact congrArg Scanned.groups scanned
  case diagnostics => exact congrArg Scanned.diagnostics scanned
  case registration =>
    rw [artifact?_generate, artifact?_generate, scanned]
    exact groupRegistry_supplying _ _ _
  case dispatch =>
    rw [artifact?_generate, artifact?_generate, scanned]
    exact routeTable_supplying _ _ _

/-!
### Members
-/

namespace TypeGraph

variable {g g' : TypeGraph} {t u : TypeExpr} {path : String} {args : List TypeExpr} {d source : Declaration}

/-- `g.Within g'` says that `g` leads nowhere where `g'` does not: both are about the same program, `g` stops at every
    type at which `g'` does, and it counts inherited fields only if `g'` does. -/
structure Within (g g' : TypeGraph) : Prop where
  program : g.program = g'.program
  ignoreMarker : g.conventions.ignoreMarker = g'.conventions.ignoreMarker
  framework : ∀ path, g'.conventions.isFrameworkType path = true → g.conventions.isFrameworkType path = true
  inherited : g.withInherited = true → g'.withInherited = true

theorem IsGiven.anti (within : g.Within g') (given : g'.IsGiven path args) : g.IsGiven path args :=
  given.imp_right (within.framework path)

theorem Shape.mono (within : g.Within g') (shape : g.Shape path args d) : g'.Shape path args d where
  notGiven given := shape.notGiven (given.anti within)
  declared := within.program ▸ shape.declared
  kind := shape.kind
  concrete := shape.concrete

theorem Contributes.mono (within : g.Within g') (contributes : g.Contributes d source) :
    g'.Contributes d source := by
  rcases contributes with own | ⟨inherited, steps⟩
  · exact .inl own
  · exact .inr ⟨within.inherited inherited, within.program ▸ steps⟩

theorem Serialized.mono {f : Field} (within : g.Within g') (serialized : g.Serialized f) : g'.Serialized f where
  isPublic := serialized.isPublic
  isReadable := serialized.isReadable
  notIgnored a mem := within.ignoreMarker ▸ serialized.notIgnored a mem

/-- An edge of the smaller graph is one of the larger graph, -/
theorem Visits.mono (within : g.Within g') (visits : g.Visits t u) : g'.Visits t u := by
  cases visits with
  | element => exact .element
  | inner => exact .inner
  | undeclared notGiven undeclared mem =>
      exact .undeclared (fun given => notGiven (given.anti within)) (within.program ▸ undeclared) mem
  | argument shape mem => exact .argument (shape.mono within) mem
  | field shape contributes mem serialized =>
      exact .field (shape.mono within) (contributes.mono within) mem (serialized.mono within)

/-- and so is a way along any number of edges to a member. -/
theorem Reaches.mono (within : g.Within g') (reaches : g.Reaches t u) : g'.Reaches t u := by
  obtain ⟨visits, path, args, d, isNamed, shape⟩ := reaches
  have visits' := visits.lift id fun _ _ visit => visit.mono within
  exact ⟨visits', path, args, d, isNamed, shape.mono within⟩

end TypeGraph

theorem ClosureOptions.LeadsNoFurther.within {c c' : ClosureOptions} (less : c.LeadsNoFurther c') (p : Program)
    (o : Options) : ((o.closing c).graph p).Within ((o.closing c').graph p) where
  program := rfl
  ignoreMarker := rfl
  framework path isFramework := by
    simp only [Options.graph, Options.closing, Conventions.supplying, Conventions.isFrameworkType, Bool.or_eq_true,
      beq_iff_eq, List.contains_iff_mem, List.mem_append] at isFramework ⊢
    exact isFramework.imp_right fun mem => mem.imp_right (less.framework path)
  inherited := less.inherited

/-- Two passes whose options differ only in the choices about the closure find the same routes and write the same
    files for them. If the types of the program are those of texts, as all are that stand in a dump, the pass that
    leads no further has no member that the other one does not have: inherited fields take none away, and
    further framework types bring none in. -/
theorem generate_closing (p : Program) (o : Options) (c c' : ClosureOptions) :
    (generate p (o.closing c)).SameRoutes (generate p (o.closing c')) ∧
      (p.Written → c.LeadsNoFurther c' →
        ∀ u ∈ (generate p (o.closing c)).types.members, u ∈ (generate p (o.closing c')).types.members) := by
  have routes := sameRoutes_closing p o c
  have routes' := sameRoutes_closing p o c'
  refine ⟨⟨routes.groups.trans routes'.groups.symm, routes.diagnostics.trans routes'.diagnostics.symm,
    routes.registration.trans routes'.registration.symm, routes.dispatch.trans routes'.dispatch.symm⟩, ?_⟩
  intro written less u mem
  obtain ⟨group, isGroup, e, isEntry, t, isStart, reaches⟩ := (mem_types_generate_of_written written).mp mem
  have isGroup' : group ∈ (generate p (o.closing c')).groups := by
    rwa [routes'.groups, ← routes.groups]
  exact (mem_types_generate_of_written written).mpr
    ⟨group, isGroup', e, isEntry, t, isStart, reaches.mono (less.within p o)⟩

/-- A route hands out a type with a base type; each of the two has a field. -/
def derivedDeclarations : List Declaration :=
  [{ path := "B", fields := [{ name := "x", type := .named "N" [] }] },
   { path := "D", base := some (.named "B" []), fields := [{ name := "y", type := .named "F" [] }] },
   { path := "N" }, { path := "F" },
   { path := "A", attributes := [⟨"r::RouteGroup", [], []⟩],
     methods := [{ name := "g", returns := some (.named "D" []), attributes := [⟨"r::HttpGet", [], []⟩] }] }]

/-- The program of the declarations. -/
def derivedProgram : Program := .ofDeclarations derivedDeclarations

/-- The options of its passes apart from the choices about the closure. -/
def derivedOptions : Options := { conventions := .ofNamespace "r" }

/-- The route. -/
def derivedRoute : RouteEntry :=
  { group := "A", handler := "g", template := "", verbs := .singleton .get, params := [],
    returns := .payload (.named "D" []) (some (.named "D" [])) false, attributes := [],
    isStatic := false, isAsync := false }

theorem derivedProgram_written : derivedProgram.Written := by
  have item (path : String) (parsed : TypeExpr.parse path = .ok (.named path [])) :
      TypeExpr.Writable (.named path []) := TypeExpr.writable_iff.mpr ⟨path, parsed⟩
  have written : ∀ d ∈ derivedDeclarations, d.Written := by
    intro d mem
    simp only [derivedDeclarations, List.mem_cons, List.not_mem_nil, or_false] at mem
    rcases mem with rfl | rfl | rfl | rfl | rfl
    · exact ⟨by simp, List.forall_mem_singleton.mpr (item "N" (by cbv)), by simp⟩
    · exact ⟨by simpa using item "B" (by cbv), List.forall_mem_singleton.mpr (item "F" (by cbv)), by simp⟩
    · exact ⟨by simp, by simp, by simp⟩
    · exact ⟨by simp, by simp, by simp⟩
    · exact ⟨by simp, by simp, List.forall_mem_singleton.mpr ⟨by simp, by simpa using item "D" (by cbv)⟩⟩
  exact (Program.Loaded.ofKept written (by decide)).written

/-- The walk starts from the type that the route hands out. -/
theorem mem_types_derived {c : ClosureOptions} {u : TypeExpr} :
    u ∈ (generate derivedProgram (derivedOptions.closing c)).types.members ↔
      ((derivedOptions.closing c).graph derivedProgram).Reaches (.named "D" []) u := by
  have groups : (generate derivedProgram derivedOptions).groups = [⟨"A", "", [derivedRoute]⟩] := by
    change (scan derivedProgram (.ofNamespace "r")).groups = _
    decide +kernel
  have starts : (Expansion.route derivedRoute).starts = [.named "D" []] := rfl
  rw [mem_types_generate_of_written derivedProgram_written, (sameRoutes_closing _ _ c).groups, groups]
  simp only [List.mem_singleton, exists_eq_left, starts]

/-- Without inherited fields, and with the type of its own field supplied, the type is the only member. The type of
    the inherited field is one more if such fields count. -/
theorem generate_closing_derived :
    let c : ClosureOptions := { frameworkTypes := ["F"] }
    let c' : ClosureOptions := { withInherited := true }
    let pass (c : ClosureOptions) : Generation := generate derivedProgram (derivedOptions.closing c)
    derivedProgram.Written ∧ c.LeadsNoFurther c' ∧ (pass c).SameRoutes (pass c') ∧
      (∀ u ∈ (pass c).types.members, u ∈ (pass c').types.members) ∧
      .named "N" [] ∉ (pass c).types.members ∧ .named "N" [] ∈ (pass c').types.members := by
  intro c c' pass
  have less : c.LeadsNoFurther c' := ⟨nofun, nofun⟩
  obtain ⟨routes, members⟩ := generate_closing derivedProgram derivedOptions c c'
  refine ⟨derivedProgram_written, less, routes, members derivedProgram_written less, ?_, ?_⟩
  · rw [mem_types_derived]
    rintro ⟨visits, -⟩
    have stays : ∀ t ∈ [TypeExpr.named "D" [], .named "F" []],
        ∀ u ∈ (((derivedOptions.closing c).graph derivedProgram).visit t).next,
          u ∈ [TypeExpr.named "D" [], .named "F" []] := by
      decide +kernel
    have met := TypeGraph.mem_of_visits stays List.mem_cons_self visits
    simp at met
  · rw [mem_types_derived]
    have visit : .named "N" [] ∈ (((derivedOptions.closing c').graph derivedProgram).visit (.named "D" [])).next := by
      decide +kernel
    refine ⟨.single (TypeGraph.mem_next_iff.mp visit), TypeGraph.isMember_iff.mpr ⟨[], ?_⟩⟩
    decide +kernel

/-!
### Types of one text

The members of a set are told apart by their texts. So the types of the program have to be those of texts: a type that
was built otherwise can have the text of another one, and take its place.
-/

/-- A route hands out two types in turn. The second one has for its path the text of the type of a field that the first
    one inherits, as no type of a dump has. -/
def alikeProgram : Program :=
  .ofDeclarations
    [{ path := "B", fields := [{ name := "x", type := .named "P" [.named "u8" []] }] },
     { path := "D", base := some (.named "B" []) }, { path := "P" },
     { path := "P<u8>", fields := [{ name := "y", type := .named "F" [] }] }, { path := "F" },
     { path := "A", attributes := [⟨"r::RouteGroup", [], []⟩],
       methods := [{ name := "g", returns := some (.named "M" [.named "D" [], .named "P<u8>" []]),
                     attributes := [⟨"r::HttpGet", [], []⟩] }] }]

theorem types_alikeProgram (c : ClosureOptions) :
    (generate alikeProgram (derivedOptions.closing c)).types =
      ((derivedOptions.closing c).graph alikeProgram).expand .empty
        (.named "M" [.named "D" [], .named "P<u8>" []]) := by
  have groups : (generate alikeProgram derivedOptions).groups.flatMap (·.entries) =
      [{ group := "A", handler := "g", template := "", verbs := .singleton .get, params := [],
         returns := .payload (.named "M" [.named "D" [], .named "P<u8>" []])
           (some (.named "M" [.named "D" [], .named "P<u8>" []])) false,
         attributes := [], isStatic := false, isAsync := false }] := by
    change (scan alikeProgram (.ofNamespace "r")).groups.flatMap _ = _
    decide +kernel
  rw [types_generate, (sameRoutes_closing _ _ c).groups, groups]
  rfl

/-- Where two types of the program have one text, inherited fields can take a member away: the one that is met
    first is followed, and the other one is not. -/
theorem alike_member_lost :
    (ClosureOptions.LeadsNoFurther {} { withInherited := true }) ∧
      .named "F" [] ∈ (generate alikeProgram (derivedOptions.closing {})).types.members ∧
      .named "F" [] ∉ (generate alikeProgram (derivedOptions.closing { withInherited := true })).types.members := by
  have without : (generate alikeProgram (derivedOptions.closing {})).types.members =
      [.named "D" [], .named "F" [], .named "P<u8>" []] := by
    rw [types_alikeProgram]
    exact TypeGraph.members_expand (n := 10) (by decide +kernel)
  have inherited : (generate alikeProgram (derivedOptions.closing { withInherited := true })).types.members =
      [.named "D" [], .named "P" [.named "u8" []]] := by
    rw [types_alikeProgram]
    exact TypeGraph.members_expand (n := 20) (by decide +kernel)
  rw [without, inherited]
  exact ⟨⟨nofun, nofun⟩, by simp, by simp⟩

end RouteScribe
