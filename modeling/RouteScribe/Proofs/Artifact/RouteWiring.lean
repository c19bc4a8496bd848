/-
Module: RouteScribe.Proofs.Artifact.RouteWiring
Layer: Proofs
Purpose: The routing file and the routes go one to one. The file is there if there is a route. Apart from its imports
  and the frame around the lines, it has one line and one function for each route, in the order of the routes: the
  line registers the path and the verbs of the route for the function, and the function is the one around the handler
  of the route. No two functions have the same name, so a line refers to the function of its own route.
Imports: Mathlib.Data.List.Nodup, RouteScribe.Proofs.Artifact.HandlerCalls,
  RouteScribe.Proofs.Artifact.ProducedFiles, RouteScribe.Proofs.Artifact.RegisteredRoutes
Trusted boundary: human-reviewed spec
Main exports: WiresRoutes, place_inj, wiresRoutes_content, routeTable_wires
Open obligations: none
-/
import Mathlib.Data.List.Nodup
import RouteScribe.Proofs.Artifact.HandlerCalls
import RouteScribe.Proofs.Artifact.ProducedFiles
import RouteScribe.Proofs.Artifact.RegisteredRoutes

namespace RouteScribe

/-!
### The specification
-/

/-- The body of the routing file around the given lines and functions. -/
def routingBody (router : String) (lines functions : List String) : String :=
  "/// Wires every generated route into the router.\n" ++
    "pub fn map_routes<S>(router: " ++ router ++ "<S>) -> " ++ router ++ "<S>\n" ++
    "where\n    S: Clone + Send + Sync + 'static,\n\x7b\n    router\n" ++
    String.join (lines.map fun line => "        " ++ line ++ "\n") ++
    "\x7d\n" ++
    String.join (functions.map fun text => "\n" ++ text)

/-- `WiresRoutes conv b routes content` says that a file with the text `content`, in which items are written by their
    names in `b`, registers the routes and defines the functions around their handlers, and nothing else. -/
structure WiresRoutes (conv : Conventions) (b : UseBlock) (routes : List (RouteGroup × RouteEntry))
    (content : String) : Prop where
  /-- No two functions have the same name, -/
  distinct : ((RegisteredRoute.ofRoutes 0 routes).map (·.wrapper)).Nodup
  /-- and none has that of the function around the lines. -/
  apart : "map_routes" ∉ (RegisteredRoute.ofRoutes 0 routes).map (·.wrapper)
  /-- There is one line for each route and one function of the name in the line, each in the order of the routes. -/
  text : ∃ lines functions,
    List.Forall₂ (RegisteredRoute.WrittenAs conv b.lines) (RegisteredRoute.ofRoutes 0 routes) lines ∧
      List.Forall₂ (fun (r, g, e) (f : FunctionSource) => f.name = r.wrapper ∧ f.Surrounds conv b g e)
        ((RegisteredRoute.ofRoutes 0 routes).zip routes) functions ∧
      content = fileText b.lines (routingBody (b.nameIn conv.router) lines (functions.map FunctionSource.text))

/-!
### Names of functions
-/

/-- The characters behind the last underscore of a name, the last one first. -/
def behindUnderscore (name : String) : List Char := name.toList.reverse.takeWhile (· != '_')

/-- The digits of the place of a route stand behind the last underscore of the name of its function. -/
theorem behindUnderscore_wrapperName (g : RouteGroup) (e : RouteEntry) (place : Nat) :
    behindUnderscore (wrapperName g e place) = (Nat.toDigits 10 place).reverse := by
  have digits : ∀ c ∈ (Nat.toDigits 10 place).reverse, (c != '_') = true := by
    intro c mem
    refine bne_iff_ne.mpr fun same => Nat.underscore_not_in_toDigits (n := place) ?_
    exact same ▸ List.mem_reverse.mp mem
  have split : (wrapperName g e place).toList.reverse = (Nat.toDigits 10 place).reverse ++
      '_' :: (Text.snakeCase g.shortName ++ "_" ++ Text.snakeCase e.handler).toList.reverse := by
    simp [wrapperName]
  rw [behindUnderscore, split, List.takeWhile_append_of_pos digits]
  simp

/-- Functions of different places have different names, whatever the groups and the handlers are called. -/
theorem place_inj {g h : RouteGroup} {e f : RouteEntry} {place place' : Nat}
    (same : wrapperName g e place = wrapperName h f place') : place = place' := by
  have reversed := congrArg behindUnderscore same
  rw [behindUnderscore_wrapperName, behindUnderscore_wrapperName, List.reverse_inj] at reversed
  rw [← Nat.ofDigitChars_ten_toDigits (n := place), reversed, Nat.ofDigitChars_ten_toDigits]

/-- No function has the name of the one around the registrations. -/
theorem wrapperName_ne_mapRoutes (g : RouteGroup) (e : RouteEntry) (place : Nat) :
    wrapperName g e place ≠ "map_routes" := by
  intro same
  have reversed := congrArg behindUnderscore same
  rw [behindUnderscore_wrapperName] at reversed
  have letter : 'r' ∈ Nat.toDigits 10 place := by
    rw [← List.mem_reverse, reversed]
    decide
  have digit := Nat.isDigit_of_mem_toDigits (by decide) (by decide) letter
  exact absurd digit (by decide)

theorem nodup_wrappers (place : Nat) (routes : List (RouteGroup × RouteEntry)) :
    ((RegisteredRoute.ofRoutes place routes).map (·.wrapper)).Nodup := by
  have places : ((routes.zipIdx place).map Prod.snd).Nodup := by
    rw [List.zipIdx_map_snd]
    exact List.nodup_range'
  rw [RegisteredRoute.ofRoutes, List.map_map]
  refine (List.pairwise_map.mp places).map _ fun route route' apart same => apart ?_
  exact place_inj same

theorem mapRoutes_notMem_wrappers (place : Nat) (routes : List (RouteGroup × RouteEntry)) :
    "map_routes" ∉ (RegisteredRoute.ofRoutes place routes).map (·.wrapper) := by
  rw [RegisteredRoute.ofRoutes, List.map_map]
  intro mem
  obtain ⟨placed, -, same⟩ := List.mem_map.mp mem
  exact wrapperName_ne_mapRoutes _ _ _ same

/-!
### Functions
-/

/-- The rows of routes have the functions around their handlers, in order. -/
theorem TableRow.surround_ofRoutes {conv : Conventions} {uses b : UseBlock} {place : Nat}
    {routes : List (RouteGroup × RouteEntry)} (grows : (ofRoutes conv uses place routes).2.imported <+: b.imported) :
    List.Forall₂ (fun (r, g, e) (row : TableRow) =>
        row.wrapper.source.name = r.wrapper ∧ row.wrapper.source.Surrounds conv b g e)
      ((RegisteredRoute.ofRoutes place routes).zip routes) (ofRoutes conv uses place routes).1 := by
  have zipped : (RegisteredRoute.ofRoutes place routes).zip routes =
      (routes.zipIdx place).map fun placed => (RegisteredRoute.ofRoute placed.2 placed.1, placed.1) := by
    have both : (RegisteredRoute.ofRoutes place routes).zip ((routes.zipIdx place).map Prod.fst) = _ := List.zip_map'
    rwa [List.zipIdx_map_fst] at both
  rw [zipped, List.forall₂_map_left_iff]
  refine (made_ofRoutes grows).imp fun placed row made => ?_
  obtain ⟨uses, rfl, grows⟩ := made
  exact ⟨rfl, Wrapper.surrounds_ofRoute grows⟩

/-!
### The file
-/

theorem routesOf_isEmpty {groups : List RouteGroup} :
    (routesOf groups).isEmpty = true ↔ ∀ g ∈ groups, g.entries = [] := by
  simp [routesOf]

theorem RouteTable.body_eq (t : RouteTable) :
    t.body = routingBody t.router (t.rows.map (·.registration.text)) (t.rows.map (·.wrapper.text)) := by
  have lines : (t.rows.map (·.registration.text)).map (fun line => "        " ++ line ++ "\n") =
      t.rows.map fun row => "        " ++ row.registration.text ++ "\n" := List.map_map
  have functions : (t.rows.map (·.wrapper.text)).map (fun text => "\n" ++ text) =
      t.rows.map fun row => "\n" ++ row.wrapper.text := List.map_map
  -- The equation of `routingBody`, which `rw` would use, takes long to make: it is a term of literals only.
  delta routingBody
  rw [lines, functions]
  rfl

/-- The file of the table of a list of groups wires their routes. -/
theorem wiresRoutes_content (conv : Conventions) (groups : List RouteGroup) :
    let table := RouteTable.ofGroups conv groups
    WiresRoutes conv table.uses (routesOf groups) (Artifact.ofParts .dispatch table.uses table.body).content where
  distinct := nodup_wrappers 0 _
  apart := mapRoutes_notMem_wrappers 0 _
  text := by
    let table := RouteTable.ofGroups conv groups
    have tidy : table.uses.Tidy := by
      rw [RouteTable.uses_ofGroups]
      exact UseBlock.tidy_after _
    have router : table.router = table.uses.nameIn conv.router := by
      apply UseBlock.fst_nameOf
      rw [RouteTable.uses_ofGroups, UseBlock.after_cons]
      exact UseBlock.grows_after _ _
    have registered : List.Forall₂ (fun r (row : TableRow) =>
        RegisteredRoute.WrittenAs conv table.uses.lines r row.registration.text)
        (RegisteredRoute.ofRoutes 0 (routesOf groups)) table.rows :=
      RegisteredRoute.written_rows tidy List.prefix_rfl
    have defined := @TableRow.surround_ofRoutes conv (UseBlock.empty.nameOf conv.router).2 table.uses 0
      (routesOf groups) List.prefix_rfl
    refine ⟨table.rows.map (·.registration.text), table.rows.map (·.wrapper.source), ?_, ?_, ?_⟩
    · exact List.forall₂_map_right_iff.mpr registered
    · exact List.forall₂_map_right_iff.mpr defined
    · have functions : (table.rows.map (·.wrapper.source)).map FunctionSource.text =
          table.rows.map (·.wrapper.text) := by
        rw [List.map_map]
        exact List.map_congr_left fun row _ => row.wrapper.text_source.symm
      rw [Artifact.content_ofParts, table.body_eq, functions, router]

/-- There is a routing file if and only if some group has a route. It registers every route and defines a function
    for each, in the order of the routes: the function to which the registration refers, under a name that no other
    function of the file has. -/
theorem routeTable_wires (conv : Conventions) (groups : List RouteGroup) :
    (RouteTable.artifact? conv groups = none ∧ ∀ g ∈ groups, g.entries = []) ∨
      (∃ g ∈ groups, g.entries ≠ []) ∧
        ∃ a, RouteTable.artifact? conv groups = some a ∧ a.kind = .dispatch ∧
          WiresRoutes conv (RouteTable.ofGroups conv groups).uses
            (groups.flatMap fun g => g.entries.map fun e => (g, e)) a.content := by
  by_cases none : (routesOf groups).isEmpty = true
  · exact .inl ⟨if_pos none, routesOf_isEmpty.mp none⟩
  · refine .inr ⟨?_, _, if_neg none, rfl, wiresRoutes_content conv groups⟩
    simpa using mt routesOf_isEmpty.mpr none

end RouteScribe
