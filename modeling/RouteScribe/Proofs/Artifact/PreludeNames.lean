/-
Module: RouteScribe.Proofs.Artifact.PreludeNames
Layer: Proofs
Purpose: Which names of the prelude the imports of the routing file take away. The file writes some of these names
  on its own: lists and optional values are written by them, and so are the bounds on the state of its router.
  The first kind is never imported. A bound is, as soon as an item of a route has it for its last segment: then
  the first such item is imported by that name, and the bound means the item.
Imports: RouteScribe.Artifact.RouteTable, RouteScribe.Proofs.Reachability.RouteMembers
Trusted boundary: human-reviewed spec
Main exports: RouteTable.boundNames, RouteTable.preludeNames, RouteTable.routeItems, RouteTable.TakesNames,
  RouteTable.uses_ofGroups, RouteTable.bounds_taken_by_first_item
Open obligations: none
-/
import RouteScribe.Artifact.RouteTable
import RouteScribe.Proofs.Reachability.RouteMembers

namespace RouteScribe

open ItemPath (isQualified lastSegment)

/-!
### The specification
-/

/-- The declared type of what a handler hands back. -/
def ReturnShape.declared? : ReturnShape → Option TypeExpr
  | .void => none
  | .fireAndForget => none
  | .payload declared _ _ => some declared

/-- The items of a program in the wrapper of a route: the type of the group, and those in the types of the
    parameters and of the result. -/
def RouteEntry.items (e : RouteEntry) (g : RouteGroup) : List String :=
  g.path :: (e.params.flatMap (·.type.paths) ++ e.returns.declared?.toList.flatMap TypeExpr.paths)

namespace RouteTable

/-- The bounds on the state of the router, as the file writes them. -/
def boundNames : List String := ["Clone", "Send", "Sync"]

/-- The names of the prelude that the file writes on its own: the bounds, and those of lists and optional values. -/
def preludeNames : List String := boundNames ++ ["Vec", "Option"]

/-- The items of a program that the file names, in the order in which it does. -/
def routeItems (groups : List RouteGroup) : List String := (routesOf groups).flatMap fun (g, e) => e.items g

/-- `TakesNames groups lines` says which names the imports `lines` take away, if `groups` have the routes. -/
structure TakesNames (groups : List RouteGroup) (lines : List String) : Prop where
  /-- No name that is reserved, -/
  reserved : ∀ path ∈ lines, lastSegment path ∉ UseBlock.reservedNames
  /-- and a bound for the first item that has it for its last segment, -/
  bounds : ∀ name ∈ boundNames, ∀ path, path ∈ lines ∧ lastSegment path = name ↔
    (routeItems groups).find? (fun item => isQualified item && lastSegment item == name) = some path
  /-- so the names of the prelude keep their meaning just if there is no such item. -/
  kept : (∀ path ∈ lines, lastSegment path ∉ preludeNames) ↔
    ∀ item ∈ routeItems groups, isQualified item = true → lastSegment item ∉ boundNames

end RouteTable

/-!
### The items of the file
-/

section

variable {conv : Conventions} {b : UseBlock} {g : RouteGroup} {e : RouteEntry} {name : String}

/-- The items in the registration of a route. -/
def Registration.items (conv : Conventions) (e : RouteEntry) : List String :=
  match e.singleVerb?.bind Verb.routingFunction? with
  | some function => [conv.routingModule ++ "::" ++ function]
  | none => [conv.routingModule ++ "::on", conv.routingModule ++ "::MethodFilter"]

/-- The item that stands for the result of a handler that hands nothing back. -/
def ReturnShape.emptyItem (conv : Conventions) : ReturnShape → List String
  | .void => [conv.noContent]
  | .fireAndForget => []
  | .payload _ _ _ => []

/-- The items in the row of a route, in the order in which they are named. -/
def TableRow.items (conv : Conventions) (g : RouteGroup) (e : RouteEntry) : List String :=
  Registration.items conv e ++ g.path :: ((if Wrapper.addsContext e then [conv.contextType] else []) ++
    (e.params.flatMap (·.type.paths) ++
      (e.returns.emptyItem conv ++ e.returns.declared?.toList.flatMap TypeExpr.paths)))

theorem Registration.snd_ofRoute : (ofRoute conv b g e name).2 = b.after (items conv e) := by
  cases function : e.singleVerb?.bind Verb.routingFunction? with
  | some function =>
      rw [ofRoute, items, function]
      rfl
  | none =>
      rw [ofRoute, items, function]
      rfl

theorem Wrapper.snd_paramsOf (params : List RouteParam) :
    (paramsOf b params).2 = b.after (params.flatMap (·.type.paths)) := by
  induction params generalizing b with
  | nil => rfl
  | cons param params ih => rw [paramsOf, ih, UseBlock.snd_spell, List.flatMap_cons, UseBlock.after_append]

theorem Wrapper.snd_resultOf (shape : ReturnShape) :
    (resultOf conv b shape).2 =
      b.after (shape.emptyItem conv ++ shape.declared?.toList.flatMap TypeExpr.paths) := by
  cases shape with
  | void => rfl
  | fireAndForget => rfl
  | payload declared value isAsync =>
      simp [resultOf, ReturnShape.emptyItem, ReturnShape.declared?, UseBlock.snd_spell]

theorem Wrapper.snd_contextParams :
    (contextParams conv b e).2 = b.after (if addsContext e then [conv.contextType] else []) := by
  rw [contextParams]
  split
  · rfl
  · rfl

theorem TableRow.snd_ofRoute {place : Nat} : (ofRoute conv b place g e).2 = b.after (items conv g e) := by
  simp only [ofRoute, Wrapper.ofRoute, items, UseBlock.after_append, UseBlock.after_cons]
  rw [Wrapper.snd_resultOf, Wrapper.snd_paramsOf, Wrapper.snd_contextParams, Registration.snd_ofRoute,
    UseBlock.after_append]

theorem TableRow.snd_ofRoutes {place : Nat} (routes : List (RouteGroup × RouteEntry)) :
    (ofRoutes conv b place routes).2 = b.after (routes.flatMap fun (g, e) => items conv g e) := by
  induction routes generalizing b place with
  | nil => rfl
  | cons route routes ih =>
      obtain ⟨g, e⟩ := route
      simp only [ofRoutes, List.flatMap_cons, UseBlock.after_append]
      rw [ih, snd_ofRoute]

/-- The rows are made one after the other, and whatever a row imports stays imported. -/
theorem TableRow.made_ofRoutes {uses : UseBlock} {place : Nat} {routes : List (RouteGroup × RouteEntry)}
    (grows : (ofRoutes conv uses place routes).2.imported <+: b.imported) :
    List.Forall₂ (fun placed row => ∃ uses, row = (ofRoute conv uses placed.2 placed.1.1 placed.1.2).1 ∧
        (ofRoute conv uses placed.2 placed.1.1 placed.1.2).2.imported <+: b.imported)
      (routes.zipIdx place) (ofRoutes conv uses place routes).1 := by
  induction routes generalizing uses place with
  | nil => exact .nil
  | cons route routes ih =>
      rw [ofRoutes] at grows ⊢
      refine .cons ⟨uses, rfl, List.IsPrefix.trans ?_ grows⟩ (ih grows)
      rw [snd_ofRoutes]
      exact UseBlock.grows_after _ _

/-- The imports of the file come from the router and from the rows of the routes. -/
theorem RouteTable.uses_ofGroups (conv : Conventions) (groups : List RouteGroup) :
    (ofGroups conv groups).uses =
      UseBlock.empty.after (conv.router :: (routesOf groups).flatMap fun (g, e) => TableRow.items conv g e) := by
  have rows := @TableRow.snd_ofRoutes conv (UseBlock.empty.nameOf conv.router).2 0 (routesOf groups)
  rw [UseBlock.after_cons, ← rows]
  rfl

end

/-!
### Items that are no bounds
-/

/-- An item of a namespace has its name for the last segment. -/
theorem ItemPath.lastSegment_item {root name : String} (noColon : ':' ∉ name.toList) :
    lastSegment (root ++ "::" ++ name) = name := by
  have chars : (root ++ "::" ++ name).toList = root.toList ++ ':' :: ':' :: name.toList := by simp
  exact lastSegment_of_notMem noColon (Or.inr chars)

namespace RouteTable

section

variable {root : String} {g : RouteGroup} {e : RouteEntry}

theorem lastSegment_registration {item : String} (mem : item ∈ Registration.items (.ofNamespace root) e) :
    lastSegment item ∉ boundNames := by
  have ofModule (name : String) (noColon : ':' ∉ name.toList) (other : name ∉ boundNames) :
      lastSegment ((Conventions.ofNamespace root).routingModule ++ "::" ++ name) ∉ boundNames := by
    rwa [ItemPath.lastSegment_item noColon]
  cases function : e.singleVerb?.bind Verb.routingFunction? with
  | some name =>
      obtain ⟨verb, -, own⟩ := Option.bind_eq_some_iff.mp function
      rw [Registration.items, function, List.mem_singleton] at mem
      subst mem
      apply ofModule name <;> (cases verb <;> cases own <;> decide)
  | none =>
      rw [Registration.items, function, List.mem_cons, List.mem_singleton] at mem
      rcases mem with rfl | rfl
      · exact ofModule "on" (by decide) (by decide)
      · exact ofModule "MethodFilter" (by decide) (by decide)

theorem lastSegment_context : lastSegment (Conventions.ofNamespace root).contextType ∉ boundNames := by
  change lastSegment (_ ++ "::" ++ "RequestContext") ∉ _
  rw [ItemPath.lastSegment_item (by decide)]
  decide

theorem lastSegment_emptyItem {shape : ReturnShape} {item : String}
    (mem : item ∈ shape.emptyItem (.ofNamespace root)) : lastSegment item ∉ boundNames := by
  cases shape with
  | void =>
      rw [List.mem_singleton.mp mem]
      change lastSegment (_ ++ "::" ++ "NoContent") ∉ _
      rw [ItemPath.lastSegment_item (by decide)]
      decide
  | fireAndForget => cases mem
  | payload declared value isAsync => cases mem

/-- The test for an item that can be imported by a given name. -/
def isNamed (name item : String) : Bool := isQualified item && lastSegment item == name

theorem filter_isNamed_eq_nil {name : String} {items : List String} (isBound : name ∈ boundNames)
    (others : ∀ item ∈ items, lastSegment item ∉ boundNames) : items.filter (isNamed name) = [] := by
  apply List.filter_eq_nil_iff.mpr
  intro item mem named
  simp only [isNamed, Bool.and_eq_true, beq_iff_eq] at named
  exact others item mem (named.2 ▸ isBound)

/-- Of the items in the row of a route, only those of the program can have the name of a bound. -/
theorem filter_items {name : String} (isBound : name ∈ boundNames) :
    (TableRow.items (.ofNamespace root) g e).filter (isNamed name) = (e.items g).filter (isNamed name) := by
  have registration : (Registration.items (.ofNamespace root) e).filter (isNamed name) = [] :=
    filter_isNamed_eq_nil isBound fun _ => lastSegment_registration
  have empty : (e.returns.emptyItem (.ofNamespace root)).filter (isNamed name) = [] :=
    filter_isNamed_eq_nil isBound fun _ => lastSegment_emptyItem
  have context : (if Wrapper.addsContext e then [(Conventions.ofNamespace root).contextType] else []).filter
      (isNamed name) = [] := by
    apply filter_isNamed_eq_nil isBound
    intro item mem
    split at mem
    · rw [List.mem_singleton.mp mem]
      exact lastSegment_context
    · cases mem
  rw [TableRow.items, RouteEntry.items, List.filter_append, registration, List.nil_append, List.filter_cons,
    List.filter_cons]
  simp only [List.filter_append, context, empty, List.nil_append]

/-- An import by the name of a bound is the first item of the routes that has this name. -/
theorem itemNamed?_uses {name : String} (isBound : name ∈ boundNames) (groups : List RouteGroup) :
    (ofGroups (.ofNamespace root) groups).uses.itemNamed? name = (routeItems groups).find? (isNamed name) := by
  have free : name ∉ UseBlock.reservedNames := by
    revert name
    decide
  have sameTest : (fun path : String => decide (UseBlock.Importable path ∧ lastSegment path = name)) =
      isNamed name := by
    funext path
    by_cases named : lastSegment path = name
    · simp [isNamed, UseBlock.Importable, named, free]
    · simp [isNamed, named]
  have router : isNamed name (Conventions.ofNamespace root).router = false := by
    have last : lastSegment (Conventions.ofNamespace root).router ∉ boundNames := by
      change lastSegment "axum::Router" ∉ _
      decide
    cases named : isNamed name (Conventions.ofNamespace root).router with
    | false => rfl
    | true =>
        simp only [isNamed, Bool.and_eq_true, beq_iff_eq] at named
        exact absurd (named.2 ▸ isBound) last
  have rows : ((routesOf groups).flatMap fun (g, e) => TableRow.items (.ofNamespace root) g e).filter (isNamed name) =
      (routeItems groups).filter (isNamed name) := by
    simp only [routeItems, List.filter_flatMap, filter_items isBound]
  rw [uses_ofGroups, UseBlock.itemNamed?_after, sameTest, List.find?_cons_of_neg (by simp [router]),
    ← List.head?_filter, rows, List.head?_filter]
  rfl

end

/-- The imports of the routing file never take away a reserved name; they take away a bound just if some item of a
    route can be imported by its name, and then for the first such item. -/
theorem bounds_taken_by_first_item (root : String) (groups : List RouteGroup) :
    TakesNames groups (ofGroups (.ofNamespace root) groups).uses.lines := by
  have tidy : (ofGroups (.ofNamespace root) groups).uses.Tidy := by
    rw [uses_ofGroups]
    exact UseBlock.tidy_after _
  have mem_lines {path : String} : path ∈ (ofGroups (.ofNamespace root) groups).uses.lines ↔
      path ∈ (ofGroups (.ofNamespace root) groups).uses.imported := List.mem_mergeSort
  have reserved : ∀ path ∈ (ofGroups (.ofNamespace root) groups).uses.lines,
      lastSegment path ∉ UseBlock.reservedNames := by
    intro path mem
    exact (tidy path (mem_lines.mp mem)).1.2
  have bounds : ∀ name ∈ boundNames, ∀ path,
      path ∈ (ofGroups (.ofNamespace root) groups).uses.lines ∧ lastSegment path = name ↔
        (routeItems groups).find? (isNamed name) = some path := by
    intro name isBound path
    rw [mem_lines, ← tidy.itemNamed?_iff, itemNamed?_uses isBound]
  refine ⟨reserved, bounds, ?_⟩
  constructor
  · intro kept item mem qualified isBound
    cases found : (routeItems groups).find? (isNamed (lastSegment item)) with
    | none =>
        have differs := List.find?_eq_none.mp found item mem
        simp [isNamed, qualified] at differs
    | some path =>
        obtain ⟨isLine, same⟩ := (bounds _ isBound path).mpr found
        apply kept path isLine
        rw [same]
        exact List.mem_append_left _ isBound
  · intro others path isLine isPrelude
    rcases List.mem_append.mp isPrelude with isBound | isType
    · have found := (bounds _ isBound path).mp ⟨isLine, rfl⟩
      have named := List.find?_some found
      simp only [isNamed, Bool.and_eq_true] at named
      exact others path (List.mem_of_find?_eq_some found) named.1 isBound
    · apply reserved path isLine
      revert isType
      generalize lastSegment path = name
      revert name
      decide

/-- A program with a route that hands out a type by the name of a bound. -/
def sendProgram : Program :=
  .ofDeclarations
    [{ path := "A", attributes := [⟨"routegen::RouteGroup", [], []⟩],
       methods := [{ name := "g", returns := some (.named "a::Send" []),
                     attributes := [⟨"routegen::HttpGet", [], []⟩] }] }]

/-- The route of the program. -/
def sendRoute : RouteEntry :=
  { group := "A", handler := "g", template := "", verbs := .singleton .get, params := [],
    returns := .payload (.named "a::Send" []) (some (.named "a::Send" [])) false, attributes := [],
    isStatic := false, isAsync := false }

/-- The file imports the type and writes it by the name of the bound. -/
theorem send_bound_taken :
    let table := ofGroups (.ofNamespace "routegen") (scan sendProgram (.ofNamespace "routegen")).groups
    (¬ ∀ path ∈ table.uses.lines, lastSegment path ∉ preludeNames) ∧
      table.rows.map (·.wrapper.result) = [some "Send"] := by
  have groups : (scan sendProgram (.ofNamespace "routegen")).groups = [⟨"A", "", [sendRoute]⟩] := by
    decide +kernel
  have imported : "a::Send" ∈ (ofGroups (.ofNamespace "routegen") [⟨"A", "", [sendRoute]⟩]).uses.imported := by
    decide +kernel
  rw [groups]
  constructor
  · intro kept
    exact kept "a::Send" (List.mem_mergeSort.mpr imported) (by decide)
  · decide +kernel

end RouteTable

end RouteScribe
