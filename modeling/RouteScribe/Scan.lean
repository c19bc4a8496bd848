/-
Module: RouteScribe.Scan
Layer: Routes
Purpose: Collecting the routes of a program: the types with a group marker on one of their parts, and the
  marked public methods of each whole type.
Imports: RouteScribe.Marker, RouteScribe.Route
Trusted boundary: human-reviewed spec
Main exports: Scanned, scan, scanGroup, scanMethod, groupPaths
Open obligations: none
-/
import RouteScribe.Marker
import RouteScribe.Route

namespace RouteScribe

/-- The parameters of a handler. The first one of the context type is the request context; later ones are
    plain. `seen` says whether there has been one already. -/
def routeParams (conv : Conventions) (seen : Bool) : List Parameter → List RouteParam
  | [] => []
  | param :: params =>
    let isContext := param.type.path? == some conv.contextType
    { name := param.name, type := param.type, attributes := param.attributes
      isContext := isContext && !seen } :: routeParams conv (seen || isContext) params

/-- A finding for each parameter of the context type after the first one. -/
def repeatedContexts (conv : Conventions) (params : List Parameter) : List Finding :=
  let contexts := params.filter fun param => param.type.path? == some conv.contextType
  (contexts.drop 1).map fun param => .repeatedContext param.name

/-- The first type of a method's signature with an unresolved part. -/
def unresolvedType? (m : Method) : Option TypeExpr :=
  (m.params.map (·.type) ++ m.returns.toList).find? (·.mentionsUnresolved)

/-- The routes of a method of a group's type, one for each usable marker, and what is wrong with it. A
    method with an unresolved type has no route, which is said only if it would have had one. -/
def scanMethod (p : Program) (conv : Conventions) (group : String) (m : Method) :
    List RouteEntry × List Finding :=
  let markers := routeMarkers p conv m.attributes
  let findings := markerFindings p conv m.attributes
  if markers.isEmpty then ([], findings)
  else
    match unresolvedType? m with
    | some type => ([], findings ++ [.unresolvedType type.text])
    | none =>
      let entry (marker : RouteMarker) : RouteEntry :=
        { group
          handler := m.name
          template := marker.template
          verbs := marker.verbs
          params := routeParams conv false m.params
          returns := .ofSignature m.returns m.isAsync conv
          attributes := withoutMarkers p conv m.attributes
          isStatic := m.isStatic
          isAsync := m.isAsync }
      (markers.map entry, findings ++ repeatedContexts conv m.params)

/-- The place of a method. -/
def methodLocation (d : Declaration) (m : Method) : String := d.path ++ "::" ++ m.name

/-- The group of a marked type, and what is wrong with it. -/
def scanGroup (p : Program) (conv : Conventions) (d : Declaration) :
    RouteGroup × List Diagnostic :=
  let (pathPrefix, findings) := groupPrefix conv d.attributes
  let methods := d.methods.filter (·.isPublic)
  let scanned := methods.map fun m => (methodLocation d m, scanMethod p conv d.path m)
  let diagnostics := scanned.flatMap fun (location, _, found) => found.map (⟨·, location⟩)
  ({ path := d.path, pathPrefix, entries := scanned.flatMap fun (_, entries, _) => entries },
    findings.map (⟨·, d.path⟩) ++ diagnostics)

/-- The first occurrences of the members of a list. -/
def firstOccurrences : List String → List String
  | [] => []
  | x :: xs => x :: (firstOccurrences xs).filter (· != x)

/-- The paths of the types with a group marker on some part, in the order of the first marked parts. -/
def groupPaths (p : Program) (conv : Conventions) : List String :=
  firstOccurrences
    ((p.declarations.filter fun d => hasAttribute d.attributes conv.groupMarker).map (·.path))

/-- The groups of a program, and what is wrong with them. -/
structure Scanned where
  groups : List RouteGroup
  diagnostics : List Diagnostic
deriving Repr, Inhabited

/-- Collect the groups of a program. -/
def scan (p : Program) (conv : Conventions) : Scanned :=
  let scanned := ((groupPaths p conv).filterMap p.resolve).map (scanGroup p conv)
  ⟨scanned.map (·.1), scanned.flatMap (·.2)⟩

end RouteScribe
