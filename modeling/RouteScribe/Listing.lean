/-
Module: RouteScribe.Listing
Layer: Listing
Purpose: What a program declares, as lists: the routes by their paths and verbs, and the types that the routes
  can reach.
Imports: RouteScribe.Generation
Trusted boundary: human-reviewed spec
Main exports: RouteRow, routeRows, ReachableTypes, reachableTypes
Open obligations: none
-/
import RouteScribe.Generation

namespace RouteScribe

/-- A line of the list of routes. -/
structure RouteRow where
  /-- The names of the verbs with a bar between them. -/
  verbs : String
  path : String
  /-- The short name of the group and the name of the handler. -/
  handler : String
deriving DecidableEq, Repr

namespace RouteRow

/-- The line of a route. -/
def ofRoute (g : RouteGroup) (e : RouteEntry) : RouteRow :=
  ⟨"|".intercalate e.verbs.names, g.pathOf e, g.shortName ++ "::" ++ e.handler⟩

/-- Whether a line may stand before another one: paths are compared first, and then verbs. -/
def mayPrecede (a b : RouteRow) : Bool :=
  if a.path = b.path then !decide (b.verbs < a.verbs) else decide (a.path < b.path)

end RouteRow

/-- The list of the routes of some groups, in the order of their paths and verbs. Routes that have both in
    common stay in the order of the groups. -/
def routeRows (groups : List RouteGroup) : List RouteRow :=
  ((routesOf groups).map fun (g, e) => RouteRow.ofRoute g e).mergeSort RouteRow.mayPrecede

/-- The types that the routes of a program can reach, and what is wrong with the routes. -/
structure ReachableTypes where
  types : TypeSet
  diagnostics : List Diagnostic

/-- The types that the routes of a program can reach. -/
def reachableTypes (p : Program) (o : Options) : ReachableTypes :=
  let scanned := scan p o.conventions
  ⟨(o.graph p).reachableFrom scanned.groups, scanned.diagnostics⟩

end RouteScribe
