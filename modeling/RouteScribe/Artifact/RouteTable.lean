/-
Module: RouteScribe.Artifact.RouteTable
Layer: Artifacts
Purpose: The file that wires every route into a router: one registration and one wrapper for each route, in the
  order of the routes.
Imports: RouteScribe.Artifact, RouteScribe.Artifact.Wrapper
Trusted boundary: human-reviewed spec
Main exports: TableRow, RouteTable, RouteTable.ofGroups, RouteTable.artifact?
Open obligations: none
-/
import RouteScribe.Artifact
import RouteScribe.Artifact.Wrapper

namespace RouteScribe

/-- What the file says of one route. -/
structure TableRow where
  registration : Registration
  wrapper : Wrapper
deriving DecidableEq, Repr

/-- The contents of the file. -/
structure RouteTable where
  uses : UseBlock
  router : String
  rows : List TableRow
deriving Repr

namespace TableRow

/-- The row of the route at a place among all routes. -/
def ofRoute (conv : Conventions) (uses : UseBlock) (place : Nat) (g : RouteGroup) (e : RouteEntry) :
    TableRow × UseBlock :=
  let name := wrapperName g e place
  let (registration, uses) := Registration.ofRoute conv uses g e name
  let (wrapper, uses) := Wrapper.ofRoute conv uses g e name
  (⟨registration, wrapper⟩, uses)

/-- The rows of routes, the first of which stands at the given place. -/
def ofRoutes (conv : Conventions) (uses : UseBlock) (place : Nat) :
    List (RouteGroup × RouteEntry) → List TableRow × UseBlock
  | [] => ([], uses)
  | (g, e) :: routes =>
    let (row, uses) := ofRoute conv uses place g e
    let (rows, uses) := ofRoutes conv uses (place + 1) routes
    (row :: rows, uses)

end TableRow

namespace RouteTable

/-- The table of the routes of a list of groups. -/
def ofGroups (conv : Conventions) (groups : List RouteGroup) : RouteTable :=
  let (router, uses) := UseBlock.empty.nameOf conv.router
  let (rows, uses) := TableRow.ofRoutes conv uses 0 (routesOf groups)
  ⟨uses, router, rows⟩

/-- The body of the file. -/
def body (t : RouteTable) : String :=
  "/// Wires every generated route into the router.\n" ++
    "pub fn map_routes<S>(router: " ++ t.router ++ "<S>) -> " ++ t.router ++ "<S>\n" ++
    "where\n    S: Clone + Send + Sync + 'static,\n\x7b\n    router\n" ++
    String.join (t.rows.map fun row => "        " ++ row.registration.text ++ "\n") ++
    "\x7d\n" ++
    String.join (t.rows.map fun row => "\n" ++ row.wrapper.text)

/-- The file of a list of groups; without routes there is none. -/
def artifact? (conv : Conventions) (groups : List RouteGroup) : Option Artifact :=
  if (routesOf groups).isEmpty then none
  else
    let table := ofGroups conv groups
    some (.ofParts .dispatch table.uses table.body)

end RouteTable

end RouteScribe
