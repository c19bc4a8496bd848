/-
Module: RouteScribe.Conventions
Layer: Routes
Purpose: Every name that is recognised in a program or written into an artifact. Markers and the types of
  the serving layer live in one namespace, which can be chosen; a name is recognised only by its full
  path, so a type of the same short name elsewhere is none of them.
Imports: RouteScribe.ItemPath, RouteScribe.Verb
Trusted boundary: human-reviewed spec
Main exports: Conventions, Conventions.ofNamespace, Conventions.verbOfMarker?
Open obligations: none
-/
import RouteScribe.ItemPath
import RouteScribe.Verb

namespace RouteScribe

/-- The names that are recognised or written. -/
structure Conventions where
  namespacePath : String
  groupMarker : String
  routeMarker : String
  verbMarkerBase : String
  contextType : String
  fromBodyMarker : String
  ignoreMarker : String
  /-- Wrappers of a value that comes later. -/
  asyncWrappers : List String
  /-- Wrappers of one result value. -/
  valueWrappers : List String
  /-- Wrappers of one of several results. -/
  oneOfWrappers : List String
  /-- Results without a value. -/
  emptyResults : List String
  /-- Types that the serving layer supplies; they are never serialized. -/
  frameworkTypes : List String
  noContent : String
  serviceCollection : String
  schemaRegistry : String
  router : String
  routingModule : String
deriving DecidableEq, Repr, Inhabited

namespace Conventions

/-- The conventions with their markers and results in the given namespace. -/
def ofNamespace (path : String) : Conventions :=
  let root := ItemPath.withoutTrailingSeparators path
  let item (name : String) : String := root ++ "::" ++ name
  { namespacePath := root
    groupMarker := item "RouteGroup"
    routeMarker := item "Route"
    verbMarkerBase := item "HttpMethod"
    contextType := item "RequestContext"
    fromBodyMarker := item "FromBody"
    ignoreMarker := item "Ignore"
    asyncWrappers := ["core::future::Future", "std::future::Future", item "Task"]
    valueWrappers := [item "Ok", item "Created", item "Accepted", "axum::Json"]
    oneOfWrappers := [item "Results"]
    emptyResults :=
      [item "NoContent", item "BadRequest", item "NotFound", item "Unauthorized",
        item "Forbidden", item "Conflict"]
    frameworkTypes :=
      [item "RequestContext", "axum::http::HeaderMap", "axum::http::Method", "axum::http::Uri",
        "axum::extract::Request", "tokio_util::sync::CancellationToken"]
    noContent := item "NoContent"
    serviceCollection := item "ServiceCollection"
    schemaRegistry := item "SchemaRegistry"
    router := "axum::Router"
    routingModule := "axum::routing" }

/-- The namespace that is used when none is chosen. -/
def defaultNamespace : String := "routegen"

/-- The conventions that hold when nothing is chosen. -/
def standard : Conventions := ofNamespace defaultNamespace

/-- The markers of a single verb, by their names inside the namespace. -/
def singleVerbMarkers : List (String × Verb) :=
  [("HttpGet", .get), ("HttpPost", .post), ("HttpPut", .put), ("HttpDelete", .delete),
    ("HttpPatch", .patch), ("HttpHead", .head), ("HttpOptions", .options)]

/-- What is left of a text behind a given beginning. -/
def afterStart? (start text : List Char) : Option (List Char) :=
  if start.isPrefixOf text then some (text.drop start.length) else none

/-- The verb of a single-verb marker, given by its full path. -/
def verbOfMarker? (conv : Conventions) (name : String) : Option Verb := do
  let behind ← afterStart? conv.namespacePath.toList name.toList
  let marker ← afterStart? ItemPath.separator.toList behind
  let (_, verb) ← singleVerbMarkers.find? fun entry => entry.1.toList == marker
  pure verb

/-- Whether the path is a wrapper of a value that comes later. -/
def isAsyncWrapper (conv : Conventions) (path : String) : Bool := conv.asyncWrappers.contains path

/-- Whether the path is a wrapper of one result value. -/
def isValueWrapper (conv : Conventions) (path : String) : Bool := conv.valueWrappers.contains path

/-- Whether the path is a wrapper of one of several results. -/
def isOneOfWrapper (conv : Conventions) (path : String) : Bool := conv.oneOfWrappers.contains path

/-- Whether the path is a result without a value. -/
def isEmptyResult (conv : Conventions) (path : String) : Bool := conv.emptyResults.contains path

/-- Whether the path is supplied by the serving layer. -/
def isFrameworkType (conv : Conventions) (path : String) : Bool :=
  path == conv.contextType || conv.frameworkTypes.contains path

end Conventions

end RouteScribe
