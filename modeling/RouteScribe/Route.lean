/-
Module: RouteScribe.Route
Layer: Routes
Purpose: Routes and the groups that they belong to. A route is one path with a set of verbs and the method
  that handles them; a method with several markers has several routes.
Imports: RouteScribe.Declaration, RouteScribe.ReturnShape, RouteScribe.RoutePath
Trusted boundary: human-reviewed spec
Main exports: RouteParam, RouteEntry, RouteGroup, RouteGroup.pathOf, routesOf
Open obligations: none
-/
import RouteScribe.Declaration
import RouteScribe.ReturnShape
import RouteScribe.RoutePath

namespace RouteScribe

/-- A parameter of a handler. -/
structure RouteParam where
  name : String
  type : TypeExpr
  attributes : List Attribute := []
  /-- Whether this is the request context of the handler. -/
  isContext : Bool := false
deriving DecidableEq, Repr, Inhabited

/-- One route of a group. -/
structure RouteEntry where
  /-- The path of the group's type. -/
  group : String
  /-- The name of the method that handles the route. -/
  handler : String
  template : String
  verbs : VerbSet
  params : List RouteParam
  returns : ReturnShape
  /-- The attributes of the method that are no markers. -/
  attributes : List Attribute
  isStatic : Bool
  isAsync : Bool
deriving DecidableEq, Repr, Inhabited

namespace RouteEntry

/-- The request context of the handler. -/
def contextParam? (e : RouteEntry) : Option RouteParam := e.params.find? (·.isContext)

/-- The verb of a route that answers to one verb only. -/
def singleVerb? (e : RouteEntry) : Option Verb := e.verbs.single?

end RouteEntry

/-- A type that groups routes. -/
structure RouteGroup where
  /-- The path of the type. -/
  path : String
  /-- The beginning of the paths of its routes, without slashes at either end. -/
  pathPrefix : String
  entries : List RouteEntry
deriving DecidableEq, Repr, Inhabited

namespace RouteGroup

/-- The last segment of the type's path. -/
def shortName (g : RouteGroup) : String := ItemPath.lastSegment g.path

/-- The path of a route of the group, with one slash at its start. -/
def pathOf (g : RouteGroup) (e : RouteEntry) : String :=
  "/" ++ RoutePath.combine g.pathPrefix e.template

end RouteGroup

/-- The routes of the groups, each with its group, in order. -/
def routesOf (groups : List RouteGroup) : List (RouteGroup × RouteEntry) :=
  groups.flatMap fun g => g.entries.map fun e => (g, e)

end RouteScribe
