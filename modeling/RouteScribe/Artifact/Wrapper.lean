/-
Module: RouteScribe.Artifact.Wrapper
Layer: Artifacts
Purpose: The two things that the routing file says of each route: the line that registers it with the router,
  and the function around its handler that the line refers to. A handler with a receiver is called on an
  instance of its group, which the request context supplies; the context is a parameter of its own when
  the handler does not take it.
Imports: RouteScribe.Conventions, RouteScribe.Route, RouteScribe.Text.Quoted, RouteScribe.Text.SnakeCase,
  RouteScribe.UseBlock
Trusted boundary: human-reviewed spec
Main exports: wrapperName, Target, Registration, Registration.ofRoute, Registration.text, Wrapper,
  Wrapper.ofRoute, Wrapper.text
Open obligations: none
-/
import RouteScribe.Conventions
import RouteScribe.Route
import RouteScribe.Text.Quoted
import RouteScribe.Text.SnakeCase
import RouteScribe.UseBlock

namespace RouteScribe

/-- The name of the function around a handler. The place of the route among all routes keeps the names
    of two routes apart. -/
def wrapperName (g : RouteGroup) (e : RouteEntry) (place : Nat) : String :=
  Text.snakeCase g.shortName ++ "_" ++ Text.snakeCase e.handler ++ "_" ++ toString place

/-!
### Registrations
-/

/-- How a route's verbs are written. -/
inductive Target where
  /-- By the routing function of the only verb. -/
  | function (name : String)
  /-- By a filter that lists the verbs. -/
  | filtered (on filter : String) (verbs : List String)
deriving DecidableEq, Repr

/-- The line that registers a route. -/
structure Registration where
  path : String
  target : Target
  wrapper : String
deriving DecidableEq, Repr

namespace Registration

/-- The registration of a route. A single verb with a routing function of its own uses it. -/
def ofRoute (conv : Conventions) (uses : UseBlock) (g : RouteGroup) (e : RouteEntry)
    (wrapper : String) : Registration × UseBlock :=
  match e.singleVerb?.bind Verb.routingFunction? with
  | some function =>
    let (name, uses) := uses.nameOf (conv.routingModule ++ "::" ++ function)
    (⟨g.pathOf e, .function name, wrapper⟩, uses)
  | none =>
    let (on, uses) := uses.nameOf (conv.routingModule ++ "::on")
    let (filter, uses) := uses.nameOf (conv.routingModule ++ "::MethodFilter")
    (⟨g.pathOf e, .filtered on filter e.verbs.names, wrapper⟩, uses)

/-- The filter of a list of verbs. -/
def filterText (filter : String) : List String → String
  | [] => ""
  | verb :: verbs =>
    filter ++ "::" ++ verb ++
      String.join (verbs.map fun other => ".or(" ++ filter ++ "::" ++ other ++ ")")

/-- The registration as it is written. -/
def text (r : Registration) : String :=
  match r.target with
  | .function name => ".route(" ++ Text.quote r.path ++ ", " ++ name ++ "(" ++ r.wrapper ++ "))"
  | .filtered on filter verbs =>
    ".route(" ++ Text.quote r.path ++ ", " ++ on ++ "(" ++ filterText filter verbs ++ ", " ++
      r.wrapper ++ "))"

end Registration

/-!
### Wrappers
-/

/-- A parameter of a wrapper, with its type as it is written. -/
structure WrapperParam where
  attributes : List Attribute := []
  name : String
  type : String
deriving DecidableEq, Repr

/-- What the handler is called on, by the names under which things are written. -/
inductive Callee where
  /-- The group's type. -/
  | onType (group : String)
  /-- An instance of the group's type that the given parameter supplies. -/
  | onInstance (group context : String)
deriving DecidableEq, Repr

/-- What becomes of the handler's result. -/
inductive Outcome where
  /-- There is none, and the given value is handed back in its place. -/
  | replaced (value : String)
  /-- There is none, but it has to be waited for. -/
  | awaited
  /-- It is handed back, and waited for before if need be. -/
  | returned (isAwaited : Bool)
deriving DecidableEq, Repr

/-- The function around a handler. -/
structure Wrapper where
  name : String
  attributes : List Attribute
  params : List WrapperParam
  /-- The type of the result as it is written. -/
  result : Option String
  callee : Callee
  handler : String
  args : List String
  outcome : Outcome
deriving DecidableEq, Repr

namespace Wrapper

/-- The parameter for the request context of a handler that does not take it. -/
def contextBinding : String := "__ctx"

/-- The variable that holds the instance of the group. -/
def groupBinding : String := "__group"

/-- The parameters of a handler with their types as they are written. -/
def paramsOf (uses : UseBlock) : List RouteParam → List WrapperParam × UseBlock
  | [] => ([], uses)
  | param :: params =>
    let (type, uses) := uses.spell param.type
    let (rest, uses) := paramsOf uses params
    (⟨param.attributes, param.name, type⟩ :: rest, uses)

/-- The type of the result as it is written, and what becomes of the result. -/
def resultOf (conv : Conventions) (uses : UseBlock) :
    ReturnShape → (Option String × Outcome) × UseBlock
  | .void =>
    let (name, uses) := uses.nameOf conv.noContent
    ((some name, .replaced name), uses)
  | .fireAndForget => ((none, .awaited), uses)
  | .payload declared _ isAsync =>
    let (type, uses) := uses.spell declared
    ((some type, .returned isAsync), uses)

/-- Whether a wrapper has a parameter for the request context that its handler does not have. -/
def addsContext (e : RouteEntry) : Bool := !e.isStatic && e.contextParam?.isNone

/-- The parameter that a wrapper adds to those of its handler. -/
def contextParams (conv : Conventions) (uses : UseBlock) (e : RouteEntry) :
    List WrapperParam × UseBlock :=
  if addsContext e then
    let (type, uses) := uses.nameOf conv.contextType
    ([⟨[], contextBinding, type⟩], uses)
  else ([], uses)

/-- The wrapper of a route. -/
def ofRoute (conv : Conventions) (uses : UseBlock) (g : RouteGroup) (e : RouteEntry)
    (name : String) : Wrapper × UseBlock :=
  let (group, uses) := uses.nameOf g.path
  let (added, uses) := contextParams conv uses e
  let (params, uses) := paramsOf uses e.params
  let ((result, outcome), uses) := resultOf conv uses e.returns
  let context := match e.contextParam? with
    | some param => param.name
    | none => contextBinding
  ({ name, attributes := e.attributes, params := added ++ params, result
     callee := if e.isStatic then .onType group else .onInstance group context
     handler := e.handler
     args := e.params.map (·.name)
     outcome }, uses)

/-- A parameter as it is written. -/
def paramText (p : WrapperParam) : String :=
  String.join (p.attributes.map fun a => a.text ++ " ") ++ p.name ++ ": " ++ p.type

/-- The list of parameters as it is written, one to a line. -/
def paramsText (w : Wrapper) : String :=
  match w.params with
  | [] => "()"
  | params => "(\n" ++ String.join (params.map fun p => "    " ++ paramText p ++ ",\n") ++ ")"

/-- The call of the handler. -/
def callText (w : Wrapper) : String :=
  let args := "(" ++ ", ".intercalate w.args ++ ")"
  match w.callee with
  | .onType group => group ++ "::" ++ w.handler ++ args
  | .onInstance _ _ => groupBinding ++ "." ++ w.handler ++ args

/-- The lines of the body. -/
def bodyText (w : Wrapper) : String :=
  let setup := match w.callee with
    | .onType _ => ""
    | .onInstance group context =>
      "    let " ++ groupBinding ++ " = " ++ context ++ ".resolve::<" ++ group ++ ">();\n"
  let call := match w.outcome with
    | .replaced value => "    " ++ w.callText ++ ";\n    " ++ value ++ "\n"
    | .awaited => "    " ++ w.callText ++ ".await;\n"
    | .returned true => "    " ++ w.callText ++ ".await\n"
    | .returned false => "    " ++ w.callText ++ "\n"
  setup ++ call

/-- The wrapper as it is written. -/
def text (w : Wrapper) : String :=
  let result := match w.result with
    | some type => " -> " ++ type
    | none => ""
  String.join (w.attributes.map fun a => a.text ++ "\n") ++
    "async fn " ++ w.name ++ w.paramsText ++ result ++ " \x7b\n" ++ w.bodyText ++ "\x7d\n"

end Wrapper

end RouteScribe
