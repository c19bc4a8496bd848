/-
Module: RouteScribe.Proofs.Artifact.HandlerCalls
Layer: Proofs
Purpose: What the functions of the routing file do. The function of a route takes all that its handler takes, and the
  request context besides if a handler with a receiver does not take it; it calls the handler once, with all of its
  parameters, and hands back what the handler does. All variables of its body are bound, and each of them once.
Imports: RouteScribe.Artifact.RouteTable, RouteScribe.Proofs.Artifact.PreludeNames,
  RouteScribe.Proofs.Routes.ScannedGroups
Trusted boundary: human-reviewed spec
Main exports: FunctionSource, FunctionSource.WellScoped, FunctionSource.Forwards, FunctionSource.Surrounds,
  wrapper_forwards, RouteTable.functions_forward
Open obligations: none
-/
import RouteScribe.Artifact.RouteTable
import RouteScribe.Proofs.Artifact.PreludeNames
import RouteScribe.Proofs.Routes.ScannedGroups

namespace RouteScribe

/-!
### The specification
-/

/-- What a method is called on. -/
inductive CallTarget where
  | ofType (name : String)
  | ofVariable (name : String)

namespace CallTarget

/-- The target as it stands before the name of the method. -/
def text : CallTarget → String
  | ofType name => name ++ "::"
  | ofVariable name => name ++ "."

/-- The variables of a target. -/
def usedVariables : CallTarget → List String
  | ofType _ => []
  | ofVariable name => [name]

end CallTarget

/-- A line of the body of a function. -/
inductive BodyLine where
  /-- A new variable for the instance of a type that a request context supplies. -/
  | resolve (bound context type : String)
  /-- A call, which is waited for or not. What it hands back is the value of the function unless it is dropped. -/
  | call (on : CallTarget) (method : String) (args : List String) (isAwaited isDropped : Bool)
  /-- An item that is the value of the function. -/
  | value (item : String)

namespace BodyLine

/-- The line as it is written. -/
def text : BodyLine → String
  | resolve bound context type => "    let " ++ bound ++ " = " ++ context ++ ".resolve::<" ++ type ++ ">();\n"
  | call on method args isAwaited isDropped =>
      "    " ++ on.text ++ method ++ "(" ++ ", ".intercalate args ++ ")" ++ (if isAwaited then ".await" else "") ++
        (if isDropped then ";\n" else "\n")
  | value item => "    " ++ item ++ "\n"

/-- Whether a line calls a method. -/
def isCall : BodyLine → Bool
  | resolve _ _ _ => false
  | call _ _ _ _ _ => true
  | value _ => false

/-- `Scoped bound lines` says that the lines use no variables but those that are bound before, and bind none of these
    again. -/
inductive Scoped : List String → List BodyLine → Prop where
  | nil {bound : List String} : Scoped bound []
  | resolve {bound : List String} {lines : List BodyLine} {new context type : String} :
      context ∈ bound → new ∉ bound → Scoped (new :: bound) lines → Scoped bound (.resolve new context type :: lines)
  | call {bound : List String} {lines : List BodyLine} {on : CallTarget} {method : String} {args : List String}
      {isAwaited isDropped : Bool} :
      (∀ x ∈ on.usedVariables ++ args, x ∈ bound) → Scoped bound lines →
        Scoped bound (.call on method args isAwaited isDropped :: lines)
  | value {bound : List String} {lines : List BodyLine} {item : String} :
      Scoped bound lines → Scoped bound (.value item :: lines)

end BodyLine

/-- An asynchronous function, with its parameters and the type of its result as they are written. -/
structure FunctionSource where
  attributes : List Attribute
  name : String
  params : List WrapperParam
  result : Option String
  body : List BodyLine

namespace FunctionSource

/-- A parameter as it is written, on a line of its own behind its attributes. -/
def paramLine (param : WrapperParam) : String :=
  "    " ++ String.join (param.attributes.map fun a => a.text ++ " ") ++ param.name ++ ": " ++ param.type ++ ",\n"

/-- The function as it is written. -/
def text (f : FunctionSource) : String :=
  String.join (f.attributes.map fun a => a.text ++ "\n") ++ "async fn " ++ f.name ++
    "(" ++ (if f.params = [] then "" else "\n") ++ String.join (f.params.map paramLine) ++ ")" ++
    (f.result.elim "" fun type => " -> " ++ type) ++ " \x7b\n" ++ String.join (f.body.map BodyLine.text) ++ "\x7d\n"

/-- Whether every variable of the body is bound, by a parameter or by a line before, and nothing is bound twice. -/
structure WellScoped (f : FunctionSource) : Prop where
  params : (f.params.map (·.name)).Nodup
  body : BodyLine.Scoped (f.params.map (·.name)) f.body

end FunctionSource

/-- The parameters of a method in their order, with their attributes and their types, if items are written by their
    names in `b`. -/
def Method.paramsIn (b : UseBlock) (m : Method) : List WrapperParam :=
  m.params.map fun param => ⟨param.attributes, param.name, (param.type.rename b.nameIn).text⟩

section

variable (conv : Conventions) (b : UseBlock) (g : RouteGroup)

/-- Whether a parameter has the type of a request context. -/
def Parameter.HasContextType (param : Parameter) : Prop := param.type.path? = some conv.contextType

/-- Whether a method needs the request context and does not take it: it has a receiver, and no parameter of the type
    of a request context. -/
def Method.LacksContext (m : Method) : Prop := m.isStatic = false ∧ ∀ param ∈ m.params, ¬ param.HasContextType conv

/-- `ContextOf conv m x` says that the function around the method `m` has the request context in the variable `x`. -/
inductive ContextOf (m : Method) : String → Prop where
  /-- It is the first parameter of that type, -/
  | taken {before behind : List Parameter} {param : Parameter} :
      m.params = before ++ param :: behind → param.HasContextType conv →
        (∀ earlier ∈ before, ¬ earlier.HasContextType conv) → ContextOf m param.name
  /-- or the parameter that is added. -/
  | added : (∀ param ∈ m.params, ¬ param.HasContextType conv) → ContextOf m "__ctx"

/-- `CalledOn conv b g m setup on` says what the method `m` of the group `g` is called on behind the lines `setup`, if
    items are written by their names in `b`. -/
inductive CalledOn (m : Method) : List BodyLine → CallTarget → Prop where
  | static : m.isStatic = true → CalledOn m [] (.ofType (b.nameIn g.path))
  | receiver {context : String} : m.isStatic = false → ContextOf conv m context →
      CalledOn m [.resolve "__group" context (b.nameIn g.path)] (.ofVariable "__group")

/-- `HandsBack conv b shape result isAwaited isDropped behind` says what is done with the result of a call, and which
    lines stand behind it, for a method with a result of the given shape. -/
inductive HandsBack : ReturnShape → (result : Option String) → (isAwaited isDropped : Bool) →
    (behind : List BodyLine) → Prop where
  | void : HandsBack .void (some (b.nameIn conv.noContent)) false true [.value (b.nameIn conv.noContent)]
  | fireAndForget : HandsBack .fireAndForget none true true []
  | payload {declared : TypeExpr} {value : Option TypeExpr} {isAsync : Bool} :
      HandsBack (.payload declared value isAsync) (some (declared.rename b.nameIn).text) isAsync false []

/-- `f.Surrounds conv b g e` says that the function `f` is the one around the handler of the route `e` of the group `g`,
    if items are written by their names in `b`. -/
structure FunctionSource.Surrounds (e : RouteEntry) (f : FunctionSource) : Prop where
  attributes : f.attributes = e.attributes
  /-- Its parameters are those of the handler, and another one in front for the request context just if the handler
      has a receiver and does not take the request context. -/
  params : f.params =
    (if e.isStatic = false ∧ e.contextParam? = none then [⟨[], "__ctx", b.nameIn conv.contextType⟩] else []) ++
      e.params.map fun param => ⟨param.attributes, param.name, (param.type.rename b.nameIn).text⟩
  /-- The handler is called with all of its parameters, on the group or on an instance of it that the request context
      supplies. -/
  body : ∃ isAwaited isDropped behind, HandsBack conv b e.returns f.result isAwaited isDropped behind ∧
    f.body =
      (if e.isStatic then [] else [.resolve "__group" (e.contextParam?.elim "__ctx" (·.name)) (b.nameIn g.path)]) ++
        .call (if e.isStatic then .ofType (b.nameIn g.path) else .ofVariable "__group") e.handler
          (e.params.map (·.name)) isAwaited isDropped :: behind

/-- `f.Forwards conv b g m shape` says that the function `f` passes requests on to the method `m` of the group `g`,
    which has a result of the given shape, if items are written by their names in `b`. -/
structure FunctionSource.Forwards (m : Method) (shape : ReturnShape) (f : FunctionSource) : Prop where
  /-- Its parameters are those of the method, and another one in front for the request context just if the method
      needs and lacks it. -/
  params : m.LacksContext conv ∧ f.params = ⟨[], "__ctx", b.nameIn conv.contextType⟩ :: m.paramsIn b ∨
    ¬ m.LacksContext conv ∧ f.params = m.paramsIn b
  /-- The method is called with all of its parameters, -/
  body : ∃ setup on isAwaited isDropped behind, CalledOn conv b g m setup on ∧
    HandsBack conv b shape f.result isAwaited isDropped behind ∧
    f.body = setup ++ .call on m.name (m.params.map (·.name)) isAwaited isDropped :: behind
  /-- and only once. -/
  once : (f.body.filter BodyLine.isCall).length = 1
  wellScoped : f.WellScoped

end

/-!
### Functions as they are written
-/

/-- Whether the result of the handler is waited for. -/
def Outcome.isAwaited : Outcome → Bool
  | replaced _ => false
  | awaited => true
  | returned isAwaited => isAwaited

/-- Whether the result of the handler is dropped. -/
def Outcome.isDropped : Outcome → Bool
  | replaced _ => true
  | awaited => true
  | returned _ => false

/-- The lines behind the call of the handler. -/
def Outcome.linesBehind : Outcome → List BodyLine
  | replaced value => [.value value]
  | awaited => []
  | returned _ => []

/-- The lines before the call of the handler. -/
def Callee.linesBefore : Callee → List BodyLine
  | onType _ => []
  | onInstance group context => [.resolve Wrapper.groupBinding context group]

/-- What the handler is called on. -/
def Callee.target : Callee → CallTarget
  | onType group => .ofType group
  | onInstance _ _ => .ofVariable Wrapper.groupBinding

/-- The lines of a wrapper. -/
def Wrapper.source (w : Wrapper) : FunctionSource where
  attributes := w.attributes
  name := w.name
  params := w.params
  result := w.result
  body := w.callee.linesBefore ++
    .call w.callee.target w.handler w.args w.outcome.isAwaited w.outcome.isDropped :: w.outcome.linesBehind

theorem Wrapper.callText_source (w : Wrapper) :
    w.callText = w.callee.target.text ++ w.handler ++ "(" ++ ", ".intercalate w.args ++ ")" := by
  rw [callText]
  cases w.callee with
  | onType group => simp only [Callee.target, CallTarget.text, String.append_assoc]
  | onInstance group context => simp only [Callee.target, CallTarget.text, String.append_assoc]

theorem Wrapper.bodyText_source (w : Wrapper) : w.bodyText = String.join (w.source.body.map BodyLine.text) := by
  rw [bodyText, callText_source, source, List.map_append, String.join_append]
  congr 1
  · cases w.callee with
    | onType group => rfl
    | onInstance group context => simp [Callee.linesBefore, BodyLine.text]
  · rw [List.map_cons, String.join_cons]
    cases w.outcome with
    | replaced value =>
        have twoLines : ");\n    " ++ (value ++ "\n") = ");\n" ++ ("    " ++ (value ++ "\n")) :=
          @String.append_assoc ");\n" "    " (value ++ "\n")
        simp [Outcome.isAwaited, Outcome.isDropped, Outcome.linesBehind, BodyLine.text, String.append_assoc, twoLines]
    | awaited =>
        simp [Outcome.isAwaited, Outcome.isDropped, Outcome.linesBehind, BodyLine.text, String.append_assoc]
    | returned isAwaited =>
        cases isAwaited <;>
          simp [Outcome.isAwaited, Outcome.isDropped, Outcome.linesBehind, BodyLine.text, String.append_assoc]

theorem Wrapper.paramsText_source (w : Wrapper) :
    w.paramsText = "(" ++ (if w.params = [] then "" else "\n") ++
      String.join (w.params.map FunctionSource.paramLine) ++ ")" := by
  rw [paramsText]
  split
  · rename_i none
    rw [none]
    rfl
  · rename_i some
    have line (param : WrapperParam) : "    " ++ paramText param ++ ",\n" = FunctionSource.paramLine param := by
      simp only [paramText, FunctionSource.paramLine, String.append_assoc]
    simp only [line, if_neg some]
    rfl

theorem Wrapper.text_source (w : Wrapper) : w.text = w.source.text := by
  rw [text, bodyText_source, paramsText_source, FunctionSource.text]
  cases result : w.result with
  | none => simp [source, result, String.append_assoc]
  | some type => simp [source, result, String.append_assoc]

/-!
### Parameters
-/

section

variable {conv : Conventions} {m : Method} {e : RouteEntry}

/-- The parameters of a route are those of its handler. -/
theorem map_routeParams {α : Type} (f : List Attribute → String → TypeExpr → α) (seen : Bool)
    (params : List Parameter) :
    (routeParams conv seen params).map (fun param => f param.attributes param.name param.type) =
      params.map fun param => f param.attributes param.name param.type := by
  induction params generalizing seen with
  | nil => rfl
  | cons param params ih => rw [routeParams, List.map_cons, ih, List.map_cons]

/-- Of some parameters, the first of the context type is the request context. -/
theorem find?_routeParams_some {params : List Parameter} {param : RouteParam}
    (found : (routeParams conv false params).find? (·.isContext) = some param) :
    ∃ before first behind, params = before ++ first :: behind ∧ first.HasContextType conv ∧
      (∀ earlier ∈ before, ¬ earlier.HasContextType conv) ∧ param.name = first.name := by
  induction params with
  | nil => cases found
  | cons source sources ih =>
      rw [routeParams] at found
      cases isContext : source.type.path? == some conv.contextType with
      | true =>
          rw [List.find?_cons_of_pos (by simp [isContext])] at found
          cases found
          exact ⟨[], source, sources, rfl, beq_iff_eq.mp isContext, List.forall_mem_nil _, rfl⟩
      | false =>
          rw [List.find?_cons_of_neg (by simp [isContext]), isContext] at found
          obtain ⟨before, first, behind, rfl, ofType, others, same⟩ := ih found
          refine ⟨source :: before, first, behind, rfl, ofType, List.forall_mem_cons.mpr ⟨?_, others⟩, same⟩
          simpa [Parameter.HasContextType] using isContext

theorem find?_routeParams_none {params : List Parameter} :
    (routeParams conv false params).find? (·.isContext) = none ↔ ∀ param ∈ params, ¬ param.HasContextType conv := by
  induction params with
  | nil => simp [routeParams]
  | cons source sources ih =>
      rw [routeParams, List.forall_mem_cons, ← ih]
      cases isContext : source.type.path? == some conv.contextType with
      | true =>
          have ofType : source.HasContextType conv := beq_iff_eq.mp isContext
          simp [ofType]
      | false =>
          have other : ¬ source.HasContextType conv := by simpa [Parameter.HasContextType] using isContext
          simp [other]

end

/-!
### Names
-/

section

variable {conv : Conventions} {uses b : UseBlock} {g : RouteGroup} {e : RouteEntry} {name : String}

theorem UseBlock.fst_nameOf {path : String} (grows : (uses.nameOf path).2.imported <+: b.imported) :
    (uses.nameOf path).1 = b.nameIn path :=
  (congrArg Prod.fst (nameOf_of_grows grows)).symm

namespace Wrapper

theorem grows_paramsOf (uses : UseBlock) (params : List RouteParam) :
    uses.imported <+: (paramsOf uses params).2.imported := by
  rw [snd_paramsOf]
  exact UseBlock.grows_after uses _

theorem grows_contextParams (uses : UseBlock) (e : RouteEntry) :
    uses.imported <+: (contextParams conv uses e).2.imported := by
  rw [snd_contextParams]
  exact UseBlock.grows_after uses _

theorem grows_resultOf (uses : UseBlock) (shape : ReturnShape) :
    uses.imported <+: (resultOf conv uses shape).2.imported := by
  rw [snd_resultOf]
  exact UseBlock.grows_after uses _

theorem fst_paramsOf {params : List RouteParam} (grows : (paramsOf uses params).2.imported <+: b.imported) :
    (paramsOf uses params).1 =
      params.map fun param => ⟨param.attributes, param.name, (param.type.rename b.nameIn).text⟩ := by
  induction params generalizing uses with
  | nil => rfl
  | cons param params ih =>
      rw [paramsOf] at grows ⊢
      rw [List.map_cons, ← ih grows, ← UseBlock.fst_spell _ _ ((grows_paramsOf _ params).trans grows)]

theorem fst_contextParams (grows : (contextParams conv uses e).2.imported <+: b.imported) :
    (contextParams conv uses e).1 =
      if addsContext e then [⟨[], contextBinding, b.nameIn conv.contextType⟩] else [] := by
  rw [contextParams] at grows ⊢
  split at grows
  · rw [if_pos ‹_›, if_pos ‹_›, ← UseBlock.fst_nameOf grows]
  · rw [if_neg ‹_›, if_neg ‹_›]

/-- What is done with the result of a handler goes by its shape. -/
theorem handsBack_resultOf {shape : ReturnShape} (grows : (resultOf conv uses shape).2.imported <+: b.imported) :
    HandsBack conv b shape (resultOf conv uses shape).1.1 (resultOf conv uses shape).1.2.isAwaited
      (resultOf conv uses shape).1.2.isDropped (resultOf conv uses shape).1.2.linesBehind := by
  cases shape with
  | void =>
      simp only [resultOf] at grows ⊢
      rw [UseBlock.fst_nameOf grows]
      exact .void
  | fireAndForget => exact .fireAndForget
  | payload declared value isAsync =>
      simp only [resultOf] at grows ⊢
      rw [UseBlock.fst_spell _ _ grows]
      exact .payload

/-- The variable with the request context. -/
def contextVariable (e : RouteEntry) : String :=
  match e.contextParam? with
  | some param => param.name
  | none => contextBinding

/-- A wrapper under the names of any later block. -/
theorem ofRoute_eq (grows : (ofRoute conv uses g e name).2.imported <+: b.imported) :
    ∃ result outcome, HandsBack conv b e.returns result outcome.isAwaited outcome.isDropped outcome.linesBehind ∧
      (ofRoute conv uses g e name).1 =
        { name, attributes := e.attributes
          params := (if addsContext e then [⟨[], contextBinding, b.nameIn conv.contextType⟩] else []) ++
            e.params.map fun param => ⟨param.attributes, param.name, (param.type.rename b.nameIn).text⟩
          result
          callee := if e.isStatic then .onType (b.nameIn g.path) else .onInstance (b.nameIn g.path) (contextVariable e)
          handler := e.handler
          args := e.params.map (·.name)
          outcome } := by
  simp only [ofRoute] at grows ⊢
  have behindParams := (grows_resultOf _ e.returns).trans grows
  have behindContext := (grows_paramsOf _ e.params).trans behindParams
  have behindGroup := (grows_contextParams _ e).trans behindContext
  refine ⟨_, _, handsBack_resultOf grows, ?_⟩
  rw [fst_paramsOf behindParams, fst_contextParams behindContext, UseBlock.fst_nameOf behindGroup]
  rfl

theorem contextVariable_eq (e : RouteEntry) : contextVariable e = e.contextParam?.elim contextBinding (·.name) := by
  rw [contextVariable]
  cases e.contextParam? <;> rfl

/-- The wrapper of a route is the function around the handler of the route. -/
theorem surrounds_ofRoute (grows : (ofRoute conv uses g e name).2.imported <+: b.imported) :
    (ofRoute conv uses g e name).1.source.Surrounds conv b g e := by
  obtain ⟨result, outcome, back, wrapper⟩ := ofRoute_eq grows
  have adds : addsContext e = true ↔ e.isStatic = false ∧ e.contextParam? = none := by
    rw [addsContext, Bool.and_eq_true, Bool.not_eq_true', Option.isNone_iff_eq_none]
  rw [wrapper]
  refine ⟨rfl, ?_, _, _, _, back, ?_⟩
  · simp only [source, adds]
    rfl
  · rw [source, contextVariable_eq]
    cases e.isStatic <;> rfl

end Wrapper

end

/-!
### Functions around handlers
-/

section

variable {p : Program} {conv : Conventions} {uses b : UseBlock} {g : RouteGroup} {m : Method} {e : RouteEntry}
  {group name : String} {setup behind : List BodyLine} {on : CallTarget}

theorem handler_of_mem_scanMethod (mem : e ∈ (scanMethod p conv group m).1) :
    e.handler = m.name ∧ e.isStatic = m.isStatic := by
  simp only [scanMethod] at mem
  split at mem
  · cases mem
  · split at mem
    · cases mem
    · obtain ⟨marker, -, rfl⟩ := List.mem_map.mp mem
      exact ⟨rfl, rfl⟩

theorem RouteEntry.HandledBy.names (handled : e.HandledBy conv m) :
    e.params.map (·.name) = m.params.map (·.name) := by
  rw [handled.params]
  exact map_routeParams (fun _ name _ => name) false m.params

theorem contextOf_contextVariable (handled : e.HandledBy conv m) : ContextOf conv m (Wrapper.contextVariable e) := by
  have params : e.contextParam? = (routeParams conv false m.params).find? (·.isContext) := by
    rw [RouteEntry.contextParam?, handled.params]
  rw [Wrapper.contextVariable]
  cases found : e.contextParam? with
  | none => exact .added (find?_routeParams_none.mp (params.symm.trans found))
  | some param =>
      obtain ⟨before, first, behind, split, ofType, others, same⟩ := find?_routeParams_some (params.symm.trans found)
      change ContextOf conv m param.name
      rw [same]
      exact .taken split ofType others

theorem addsContext_iff (handled : e.HandledBy conv m) (isStatic : e.isStatic = m.isStatic) :
    Wrapper.addsContext e = true ↔ m.LacksContext conv := by
  rw [Wrapper.addsContext, Bool.and_eq_true, Bool.not_eq_true', isStatic, Option.isNone_iff_eq_none,
    RouteEntry.contextParam?, handled.params, find?_routeParams_none, Method.LacksContext]

/-- The request context of a method with a receiver is a parameter of the function around the method. -/
theorem ContextOf.mem {x : String} (contextOf : ContextOf conv m x) :
    x ∈ m.params.map (·.name) ∨ x = "__ctx" ∧ ∀ param ∈ m.params, ¬ param.HasContextType conv := by
  cases contextOf with
  | taken split _ _ =>
      refine Or.inl (List.mem_map_of_mem ?_)
      rw [split]
      exact List.mem_append_right _ List.mem_cons_self
  | added none => exact Or.inr ⟨rfl, none⟩

namespace HandsBack

variable {shape : ReturnShape} {result : Option String} {isAwaited isDropped : Bool}

/-- Behind the call of the handler there are no variables -/
theorem wellScoped (back : HandsBack conv b shape result isAwaited isDropped behind) (bound : List String) :
    BodyLine.Scoped bound behind := by
  cases back with
  | void => exact .value .nil
  | fireAndForget => exact .nil
  | payload => exact .nil

/-- and no further calls. -/
theorem calls (back : HandsBack conv b shape result isAwaited isDropped behind) :
    behind.filter BodyLine.isCall = [] := by
  cases back <;> rfl

end HandsBack

namespace CalledOn

variable {bound args : List String} {method : String} {isAwaited isDropped : Bool}

theorem calls (calledOn : CalledOn conv b g m setup on) : setup.filter BodyLine.isCall = [] := by
  cases calledOn <;> rfl

/-- A call of the handler is well scoped where its arguments and the request context are bound. -/
theorem wellScoped (calledOn : CalledOn conv b g m setup on)
    (context : m.isStatic = false → ∀ x, ContextOf conv m x → x ∈ bound) (fresh : "__group" ∉ bound)
    (handed : ∀ x ∈ args, x ∈ bound) (rest : ∀ bound, BodyLine.Scoped bound behind) :
    BodyLine.Scoped bound (setup ++ .call on method args isAwaited isDropped :: behind) := by
  cases calledOn with
  | static => exact .call handed (rest bound)
  | receiver hasReceiver contextOf =>
      refine .resolve (context hasReceiver _ contextOf) fresh (.call ?_ (rest _))
      exact List.forall_mem_cons.mpr ⟨List.mem_cons_self, fun x mem => List.mem_cons_of_mem _ (handed x mem)⟩

end CalledOn

theorem Method.names_paramsIn (b : UseBlock) (m : Method) :
    (m.paramsIn b).map (·.name) = m.params.map (·.name) := by
  rw [paramsIn, List.map_map]
  rfl

/-- A function of this kind is well scoped and calls its handler once, if no parameter has the name of a variable that
    the function adds. -/
theorem FunctionSource.forwards_of_body {f : FunctionSource} {shape : ReturnShape} {isAwaited isDropped : Bool}
    (distinct : (m.params.map (·.name)).Nodup) (noContext : "__ctx" ∉ m.params.map (·.name))
    (noGroup : "__group" ∉ m.params.map (·.name))
    (params : m.LacksContext conv ∧ f.params = ⟨[], "__ctx", b.nameIn conv.contextType⟩ :: m.paramsIn b ∨
      ¬ m.LacksContext conv ∧ f.params = m.paramsIn b)
    (calledOn : CalledOn conv b g m setup on) (back : HandsBack conv b shape f.result isAwaited isDropped behind)
    (body : f.body = setup ++ .call on m.name (m.params.map (·.name)) isAwaited isDropped :: behind) :
    f.Forwards conv b g m shape where
  params := params
  body := ⟨setup, on, isAwaited, isDropped, behind, calledOn, back, body⟩
  once := by
    rw [body, List.filter_append, calledOn.calls, List.nil_append, List.filter_cons_of_pos rfl, back.calls]
    rfl
  wellScoped := by
    have bodyScoped {bound : List String} (context : m.isStatic = false → ∀ x, ContextOf conv m x → x ∈ bound)
        (fresh : "__group" ∉ bound) (handed : ∀ x ∈ m.params.map (·.name), x ∈ bound) :
        BodyLine.Scoped bound f.body := by
      rw [body]
      exact calledOn.wellScoped context fresh handed back.wellScoped
    rcases params with ⟨⟨_, none⟩, params⟩ | ⟨takes, params⟩
    · have names : f.params.map (·.name) = "__ctx" :: m.params.map (·.name) := by
        rw [params, List.map_cons, m.names_paramsIn]
      refine ⟨by rw [names]; exact List.nodup_cons.mpr ⟨noContext, distinct⟩, ?_⟩
      rw [names]
      refine bodyScoped (fun _ x contextOf => ?_) ?_ fun x mem => List.mem_cons_of_mem _ mem
      · exact List.mem_cons.mpr (contextOf.mem.symm.imp_left And.left)
      · exact List.not_mem_cons_of_ne_of_not_mem (by decide) noGroup
    · have names : f.params.map (·.name) = m.params.map (·.name) := by rw [params, m.names_paramsIn]
      refine ⟨by rwa [names], ?_⟩
      rw [names]
      refine bodyScoped (fun receiver x contextOf => ?_) noGroup fun _ mem => mem
      exact contextOf.mem.resolve_right fun added => takes ⟨receiver, added.2⟩

/-- The function around a handler passes requests on to it. -/
theorem forwards_ofRoute (mem : e ∈ (scanMethod p conv group m).1) (distinct : (m.params.map (·.name)).Nodup)
    (noContext : "__ctx" ∉ m.params.map (·.name)) (noGroup : "__group" ∉ m.params.map (·.name))
    (grows : (Wrapper.ofRoute conv uses g e name).2.imported <+: b.imported) :
    (Wrapper.ofRoute conv uses g e name).1.source.Forwards conv b g m e.returns := by
  have handled := handledBy_of_mem_scanMethod mem
  obtain ⟨handler, isStatic⟩ := handler_of_mem_scanMethod mem
  have handed : e.params.map (fun param => ⟨param.attributes, param.name, (param.type.rename b.nameIn).text⟩) =
      m.paramsIn b := by
    rw [handled.params]
    exact map_routeParams (fun attributes name type => (⟨attributes, name, (type.rename b.nameIn).text⟩ : WrapperParam))
      false m.params
  obtain ⟨result, outcome, back, wrapper⟩ := Wrapper.ofRoute_eq grows
  rw [wrapper, handled.names, handed, handler]
  have calledOn : CalledOn conv b g m
      (Callee.linesBefore (if e.isStatic then .onType (b.nameIn g.path)
        else .onInstance (b.nameIn g.path) (Wrapper.contextVariable e)))
      (Callee.target (if e.isStatic then .onType (b.nameIn g.path)
        else .onInstance (b.nameIn g.path) (Wrapper.contextVariable e))) := by
    cases receiver : e.isStatic with
    | true => exact .static (isStatic.symm.trans receiver)
    | false => exact .receiver (isStatic.symm.trans receiver) (contextOf_contextVariable handled)
  refine FunctionSource.forwards_of_body distinct noContext noGroup ?_ calledOn back rfl
  rw [← addsContext_iff handled isStatic, Wrapper.source]
  by_cases adds : Wrapper.addsContext e = true
  · exact .inl ⟨adds, by rw [if_pos adds]; rfl⟩
  · exact .inr ⟨adds, by rw [if_neg adds]; rfl⟩

end

/-- Every route of a scan was made for a public method of some part of its group's type. -/
theorem method_of_mem_scan {p : Program} {conv : Conventions} {g : RouteGroup} {e : RouteEntry}
    (isGroup : g ∈ (scan p conv).groups) (isEntry : e ∈ g.entries) :
    ∃ m ∈ (partsAt p.declarations g.path).flatMap (·.methods),
      m.isPublic = true ∧ e ∈ (scanMethod p conv g.path m).1 := by
  obtain ⟨d, -, unites, rfl⟩ := unites_of_mem_scan isGroup
  rw [entries_scanGroup] at isEntry
  obtain ⟨m, isMethod, mem⟩ := List.mem_flatMap.mp isEntry
  obtain ⟨isMethod, isPublic⟩ := List.mem_filter.mp isMethod
  exact ⟨m, unites.methods ▸ isMethod, isPublic, mem⟩

/-- All functions of the routing file pass requests on to the handlers of their routes, under the names that the file
    imports. -/
theorem RouteTable.functions_forward (p : Program) (conv : Conventions) :
    List.Forall₂ (fun (g, e) row => ∃ m, e ∈ (scanMethod p conv g.path m).1 ∧
        ((m.params.map (·.name)).Nodup → "__ctx" ∉ m.params.map (·.name) → "__group" ∉ m.params.map (·.name) →
          row.wrapper.source.Forwards conv (ofGroups conv (scan p conv).groups).uses g m e.returns))
      (routesOf (scan p conv).groups) (ofGroups conv (scan p conv).groups).rows := by
  have scanned : ∀ placed ∈ (routesOf (scan p conv).groups).zipIdx,
      ∃ m, placed.1.2 ∈ (scanMethod p conv placed.1.1.path m).1 := by
    intro placed isPlaced
    obtain ⟨g, isGroup, isRoute⟩ := List.mem_flatMap.mp (List.fst_mem_of_mem_zipIdx isPlaced)
    obtain ⟨e, isEntry, same⟩ := List.mem_map.mp isRoute
    obtain ⟨m, -, -, mem⟩ := method_of_mem_scan isGroup isEntry
    exact ⟨m, same ▸ mem⟩
  have rows := @TableRow.made_ofRoutes conv _ (UseBlock.empty.nameOf conv.router).2 0
    (routesOf (scan p conv).groups) List.prefix_rfl
  rw [← List.zipIdx_map_fst 0 (routesOf (scan p conv).groups), List.forall₂_map_left_iff]
  refine ((List.forall₂_and_left _ _).mpr ⟨scanned, rows⟩).imp fun placed row made => ?_
  obtain ⟨⟨m, mem⟩, uses, rfl, grows⟩ := made
  exact ⟨m, mem, fun distinct noContext noGroup => forwards_ofRoute mem distinct noContext noGroup grows⟩

end RouteScribe
