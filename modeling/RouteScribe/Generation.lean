/-
Module: RouteScribe.Generation
Layer: Generation
Purpose: One pass over a program: its groups, the types reachable from them, and the artifacts, in the order
  registration, dispatch, serialization. The pass itself touches no files.
Imports: RouteScribe.Artifact.GroupRegistry, RouteScribe.Artifact.RouteTable,
  RouteScribe.Artifact.SchemaRegistry, RouteScribe.Options, RouteScribe.Scan, RouteScribe.TypeGraph
Trusted boundary: human-reviewed spec
Main exports: Emission, Emission.ofGroups, Emission.artifacts, Generation, generate
Open obligations: none
-/
import RouteScribe.Artifact.GroupRegistry
import RouteScribe.Artifact.RouteTable
import RouteScribe.Artifact.SchemaRegistry
import RouteScribe.Options
import RouteScribe.Scan
import RouteScribe.TypeGraph

namespace RouteScribe

/-- The artifacts of a list of groups, and the types reachable from them. -/
structure Emission where
  registration : Option Artifact
  dispatch : Option Artifact
  serialization : Option Artifact
  types : TypeSet

namespace Emission

/-- The artifacts of a list of groups. -/
def ofGroups (g : TypeGraph) (groups : List RouteGroup) : Emission :=
  let types := g.reachableFrom groups
  { registration := GroupRegistry.artifact? g.conventions groups
    dispatch := RouteTable.artifact? g.conventions groups
    serialization := SchemaRegistry.artifact? g.conventions types
    types }

/-- The artifacts that there are. -/
def artifacts (e : Emission) : List Artifact :=
  [e.registration, e.dispatch, e.serialization].filterMap id

end Emission

/-- What a pass yields. -/
structure Generation where
  groups : List RouteGroup
  artifacts : List Artifact
  types : TypeSet
  diagnostics : List Diagnostic

namespace Generation

/-- The number of routes. -/
def routeCount (g : Generation) : Nat := (routesOf g.groups).length

/-- The artifact of a kind. -/
def artifact? (g : Generation) (kind : ArtifactKind) : Option Artifact :=
  g.artifacts.find? (·.kind == kind)

end Generation

/-- The graph of types that a program and the settings of a pass give. -/
def Options.graph (o : Options) (p : Program) : TypeGraph := ⟨p, o.conventions, o.withInherited⟩

/-- One pass over a program. -/
def generate (p : Program) (o : Options) : Generation :=
  let scanned := scan p o.conventions
  let emission := Emission.ofGroups (o.graph p) scanned.groups
  ⟨scanned.groups, emission.artifacts, emission.types, scanned.diagnostics⟩

end RouteScribe
