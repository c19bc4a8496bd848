/-
Module: RouteScribe.Artifact.GroupRegistry
Layer: Artifacts
Purpose: The file that makes every group available to the serving layer. A group without routes is listed too.
Imports: RouteScribe.Artifact, RouteScribe.Conventions, RouteScribe.Route
Trusted boundary: human-reviewed spec
Main exports: GroupRegistry, GroupRegistry.ofGroups, GroupRegistry.artifact?
Open obligations: none
-/
import RouteScribe.Artifact
import RouteScribe.Conventions
import RouteScribe.Route

namespace RouteScribe

/-- The contents of the file: the name of the service collection and those of the groups. -/
structure GroupRegistry where
  uses : UseBlock
  services : String
  groups : List String
deriving Repr

namespace GroupRegistry

/-- The names of items, one after the other. -/
def namesOf (uses : UseBlock) : List String → List String × UseBlock
  | [] => ([], uses)
  | path :: paths =>
    let (name, uses) := uses.nameOf path
    let (names, uses) := namesOf uses paths
    (name :: names, uses)

/-- The registry of a list of groups. -/
def ofGroups (conv : Conventions) (groups : List RouteGroup) : GroupRegistry :=
  let (services, uses) := UseBlock.empty.nameOf conv.serviceCollection
  let (names, uses) := namesOf uses (groups.map (·.path))
  ⟨uses, services, names⟩

/-- The body of the file. -/
def body (r : GroupRegistry) : String :=
  "/// Registers every route group for scoped retrieval.\n" ++
    "pub fn register_route_groups(services: &mut " ++ r.services ++ ") \x7b\n" ++
    String.join (r.groups.map fun name => "    services.add_scoped::<" ++ name ++ ">();\n") ++
    "\x7d\n"

/-- The file of a list of groups; without groups there is none. -/
def artifact? (conv : Conventions) (groups : List RouteGroup) : Option Artifact :=
  if groups.isEmpty then none
  else
    let registry := ofGroups conv groups
    some (.ofParts .registration registry.uses registry.body)

end GroupRegistry

end RouteScribe
