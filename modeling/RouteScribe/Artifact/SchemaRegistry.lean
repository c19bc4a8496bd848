/-
Module: RouteScribe.Artifact.SchemaRegistry
Layer: Artifacts
Purpose: The file that makes the reachable types known to a serializer, in the order of their texts.
Imports: RouteScribe.Artifact, RouteScribe.Conventions, RouteScribe.TypeSet
Trusted boundary: human-reviewed spec
Main exports: SchemaRegistry, SchemaRegistry.ofTypes, SchemaRegistry.artifact?
Open obligations: none
-/
import RouteScribe.Artifact
import RouteScribe.Conventions
import RouteScribe.TypeSet

namespace RouteScribe

/-- The contents of the file: the name of the schema registry and the types as they are written. -/
structure SchemaRegistry where
  uses : UseBlock
  registry : String
  types : List String
deriving Repr

namespace SchemaRegistry

/-- Types as they are written, one after the other. -/
def spellAll (uses : UseBlock) : List TypeExpr → List String × UseBlock
  | [] => ([], uses)
  | t :: ts =>
    let (first, uses) := uses.spell t
    let (rest, uses) := spellAll uses ts
    (first :: rest, uses)

/-- The registry of a set of types. -/
def ofTypes (conv : Conventions) (types : TypeSet) : SchemaRegistry :=
  let (registry, uses) := UseBlock.empty.nameOf conv.schemaRegistry
  let (spelled, uses) := spellAll uses types.members
  ⟨uses, registry, spelled⟩

/-- The body of the file. -/
def body (r : SchemaRegistry) : String :=
  "/// Registers every type reachable from a route's inputs or outputs.\n" ++
    "pub fn register_serializable_types(registry: &mut " ++ r.registry ++ ") \x7b\n" ++
    String.join (r.types.map fun type => "    registry.register::<" ++ type ++ ">();\n") ++
    "\x7d\n"

/-- The file of a set of types; without types there is none. -/
def artifact? (conv : Conventions) (types : TypeSet) : Option Artifact :=
  if types.isEmpty then none
  else
    let registry := ofTypes conv types
    some (.ofParts .serialization registry.uses registry.body)

end SchemaRegistry

end RouteScribe
