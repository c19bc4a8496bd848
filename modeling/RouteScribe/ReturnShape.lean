/-
Module: RouteScribe.ReturnShape
Layer: Routes
Purpose: What a handler hands back, read off its return type. Wrappers of a value that comes later are peeled
  off first; what is left is nothing, or a declared type whose payload is found under the wrappers of
  results.
Imports: RouteScribe.Conventions, RouteScribe.TypeExpr
Trusted boundary: human-reviewed spec
Main exports: ReturnShape, ReturnShape.ofSignature, ReturnShape.payload?, unwrapPayload
Open obligations: none
-/
import RouteScribe.Conventions
import RouteScribe.TypeExpr

namespace RouteScribe

/-- What a handler hands back. -/
inductive ReturnShape where
  /-- Nothing, at once. -/
  | void
  /-- Nothing, later. -/
  | fireAndForget
  /-- A value of the declared type, whose payload a serializer has to know, if it has one. -/
  | payload (declared : TypeExpr) (payload : Option TypeExpr) (isAsync : Bool)
deriving DecidableEq, Repr, Inhabited

mutual

/-- The payload under the wrappers of results: the only argument of a wrapper of one value, and of a
    wrapper of several results the first one that has a payload. A wrapper of one value with another
    number of arguments, an empty result and the empty tuple have none. -/
def unwrapPayload (conv : Conventions) : TypeExpr → Option TypeExpr
  | .named path args =>
    if conv.isAsyncWrapper path || conv.isValueWrapper path then
      match args with
      | [inner] => unwrapPayload conv inner
      | _ => none
    else if conv.isOneOfWrapper path then firstPayload conv args
    else if conv.isEmptyResult path then none
    else if (TypeExpr.named path args).isUnit then none
    else some (.named path args)
  | t => some t

/-- The payload of the first type that has one. -/
def firstPayload (conv : Conventions) : List TypeExpr → Option TypeExpr
  | [] => none
  | t :: ts =>
    match unwrapPayload conv t with
    | some payload => some payload
    | none => firstPayload conv ts

end

namespace ReturnShape

/-- A type without the wrappers of a value that comes later around it, and whether there was one. A
    wrapper without arguments wraps nothing. -/
def peelAsync (conv : Conventions) : TypeExpr → Option TypeExpr × Bool
  | .named path [] => if conv.isAsyncWrapper path then (none, true) else (some (.named path []), false)
  | .named path (arg :: args) =>
    if conv.isAsyncWrapper path then ((peelAsync conv arg).1, true)
    else (some (.named path (arg :: args)), false)
  | t => (some t, false)

/-- The shape of a handler with the given return type, declared asynchronous or not. -/
def ofSignature (returns : Option TypeExpr) (declaredAsync : Bool) (conv : Conventions) :
    ReturnShape :=
  let (left, wrapped) := match returns with
    | none => (none, false)
    | some t => peelAsync conv t
  let isAsync := declaredAsync || wrapped
  let nothing := if isAsync then fireAndForget else void
  match left with
  | none => nothing
  | some t => if t.isUnit then nothing else .payload t (unwrapPayload conv t) isAsync

/-- The type that a serializer has to know. -/
def payload? : ReturnShape → Option TypeExpr
  | .payload _ value _ => value
  | _ => none

end ReturnShape

end RouteScribe
