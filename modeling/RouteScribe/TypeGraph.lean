/-
Module: RouteScribe.TypeGraph
Layer: Reachability
Purpose: The types that a serializer has to know. A type leads to other types: to its element or its
  arguments, and a declared shape also to the types of its serialized fields. The shapes that can be
  reached from the inputs and outputs of the routes are collected. A shape that is in the set already is
  not followed again, so types that lead back to themselves do no harm.
Imports: RouteScribe.Conventions, RouteScribe.Program, RouteScribe.Route, RouteScribe.TypeSet
Trusted boundary: human-reviewed spec
Main exports: TypeGraph, TypeGraph.visit, TypeGraph.walk, TypeGraph.expand, TypeGraph.routeTypes,
  TypeGraph.expandRoute, TypeGraph.reachableFrom
Open obligations: none
-/
import RouteScribe.Conventions
import RouteScribe.Program
import RouteScribe.Route
import RouteScribe.TypeSet

namespace RouteScribe

namespace TypeExpr

mutual

/-- The types that a type is made of, itself first. -/
def parts : TypeExpr → List TypeExpr
  | .named path args => .named path args :: partsOf args
  | .array element => .array element :: parts element
  | .optional inner => .optional inner :: parts inner
  | .param name => [.param name]
  | .unresolved => [.unresolved]

/-- The types that the members of a list are made of. -/
def partsOf : List TypeExpr → List TypeExpr
  | [] => []
  | t :: ts => parts t ++ partsOf ts

end

/-- How much there is to visit in a list of types: every type is counted with all its parts. -/
def weight (ts : List TypeExpr) : Nat := (partsOf ts).length

/-- The weight of a list is that of its first type and that of the rest. -/
theorem weight_cons (t : TypeExpr) (ts : List TypeExpr) :
    weight (t :: ts) = (parts t).length + weight ts := by
  simp [weight, partsOf]

/-- The weights of two lists add up. -/
theorem weight_append (ts us : List TypeExpr) : weight (ts ++ us) = weight ts + weight us := by
  induction ts with
  | nil => simp [weight, partsOf]
  | cons t ts ih => simp only [List.cons_append, weight_cons, ih]; omega

/-- A type is one of its parts. -/
theorem self_mem_parts (t : TypeExpr) : t ∈ parts t := by
  cases t <;> simp [parts]

/-- The parts of a type are at least the type itself. -/
theorem parts_length_pos (t : TypeExpr) : 0 < (parts t).length :=
  List.length_pos_of_mem t.self_mem_parts

/-- The members of a list are made of the parts of each. -/
theorem mem_partsOf {t u : TypeExpr} {ts : List TypeExpr} (mem : t ∈ ts) (part : u ∈ parts t) :
    u ∈ partsOf ts := by
  induction ts with
  | nil => cases mem
  | cons v vs ih =>
    rw [partsOf]
    rcases List.mem_cons.mp mem with rfl | mem
    · exact List.mem_append_left _ part
    · exact List.mem_append_right _ (ih mem)

mutual

/-- The parts of a part are parts. -/
theorem parts_trans {t u v : TypeExpr} (part : u ∈ parts t) (inner : v ∈ parts u) : v ∈ parts t := by
  cases t with
  | named path args =>
    rw [parts] at part ⊢
    rcases List.mem_cons.mp part with rfl | part
    · rwa [parts] at inner
    · exact List.mem_cons_of_mem _ (partsOf_trans part inner)
  | array element =>
    rw [parts] at part ⊢
    rcases List.mem_cons.mp part with rfl | part
    · rwa [parts] at inner
    · exact List.mem_cons_of_mem _ (parts_trans part inner)
  | optional element =>
    rw [parts] at part ⊢
    rcases List.mem_cons.mp part with rfl | part
    · rwa [parts] at inner
    · exact List.mem_cons_of_mem _ (parts_trans part inner)
  | param name =>
    rw [parts, List.mem_singleton] at part
    rwa [part] at inner
  | unresolved =>
    rw [parts, List.mem_singleton] at part
    rwa [part] at inner

/-- The parts of a part of a list's members are parts of its members. -/
theorem partsOf_trans {ts : List TypeExpr} {u v : TypeExpr} (part : u ∈ partsOf ts)
    (inner : v ∈ parts u) : v ∈ partsOf ts := by
  cases ts with
  | nil => simp [partsOf] at part
  | cons t ts =>
    rw [partsOf] at part ⊢
    rcases List.mem_append.mp part with part | part
    · exact List.mem_append_left _ (parts_trans part inner)
    · exact List.mem_append_right _ (partsOf_trans part inner)

end

end TypeExpr

/-- What is known of the types that routes mention, and whether the fields of base types count. -/
structure TypeGraph where
  program : Program
  conventions : Conventions
  withInherited : Bool := false

/-- Where a type leads. -/
inductive Visit where
  /-- The type is no member and leads on to parts of itself, if to any. -/
  | through (next : List TypeExpr)
  /-- The type is a member and leads on to other types. -/
  | member (next : List TypeExpr)
deriving DecidableEq, Repr

/-- The types that a visit leads to. -/
def Visit.next : Visit → List TypeExpr
  | .through next => next
  | .member next => next

/-- Whether values of a declared type are serialized as such: interfaces, primitives and abstract types
    are not. -/
def Declaration.isShape (d : Declaration) : Bool :=
  match d.kind with
  | .interface | .primitive => false
  | .record | .enumeration => !d.isAbstract

namespace TypeGraph

/-- Whether a field is part of the serialized form. -/
def isSerialized (g : TypeGraph) (f : Field) : Bool :=
  f.isPublic && f.isReadable && !hasAttribute f.attributes g.conventions.ignoreMarker

/-- The declarations whose fields make up a declared type. -/
def fieldSources (g : TypeGraph) (d : Declaration) : List Declaration :=
  if g.withInherited then g.program.baseChain d.path else [d]

/-- The declarations whose fields make up a declared type are types of the program. -/
theorem mem_types_of_mem_fieldSources {g : TypeGraph} {d source : Declaration}
    (declared : d ∈ g.program.types) (isSource : source ∈ g.fieldSources d) :
    source ∈ g.program.types := by
  rw [fieldSources] at isSource
  split at isSource
  · exact Program.mem_types_of_mem_chainFrom isSource
  · rwa [List.mem_singleton.mp isSource]

/-- The types of the serialized fields of a declared type. -/
def fieldTypes (g : TypeGraph) (d : Declaration) : List TypeExpr :=
  (g.fieldSources d).flatMap fun source => (source.fields.filter g.isSerialized).map (·.type)

/-- Where a named type leads. -/
def visitNamed (g : TypeGraph) (path : String) (args : List TypeExpr) : Visit :=
  if (TypeExpr.named path args).isPrimitive || g.conventions.isFrameworkType path then .through []
  else
    match g.program.resolve path with
    | none => .through args
    | some d => if d.isShape then .member (args ++ g.fieldTypes d) else .through []

/-- Where a type leads. -/
def visit (g : TypeGraph) : TypeExpr → Visit
  | .named path args => g.visitNamed path args
  | .array element => .through [element]
  | .optional inner => .through [inner]
  | .param _ => .through []
  | .unresolved => .through []

/-- Passing through a type leaves less to visit. -/
theorem weight_through {g : TypeGraph} {t : TypeExpr} {next : List TypeExpr}
    (h : g.visit t = .through next) : TypeExpr.weight next < t.parts.length := by
  cases t with
  | named path args =>
    simp only [visit, visitNamed] at h
    repeat' split at h
    all_goals cases h
    all_goals simp [TypeExpr.weight, TypeExpr.partsOf, TypeExpr.parts]
  | array element => cases h; simp [TypeExpr.weight, TypeExpr.partsOf, TypeExpr.parts]
  | optional inner => cases h; simp [TypeExpr.weight, TypeExpr.partsOf, TypeExpr.parts]
  | param name => cases h; simp [TypeExpr.weight, TypeExpr.partsOf, TypeExpr.parts]
  | unresolved => cases h; simp [TypeExpr.weight, TypeExpr.partsOf, TypeExpr.parts]

/-- A type leads to parts of itself and to the types of fields of the program. -/
theorem mem_next {g : TypeGraph} {t u : TypeExpr} (h : u ∈ (g.visit t).next) :
    u ∈ t.parts ∨ ∃ d ∈ g.program.types, ∃ f ∈ d.fields, f.type = u := by
  cases t with
  | named path args =>
    have ofArgs (h : u ∈ args) : u ∈ (TypeExpr.named path args).parts := by
      rw [TypeExpr.parts]
      exact List.mem_cons_of_mem _ (TypeExpr.mem_partsOf h u.self_mem_parts)
    simp only [visit, visitNamed] at h
    split at h
    · simp [Visit.next] at h
    · split at h
      · exact Or.inl (ofArgs h)
      · rename_i d found
        split at h
        · rcases List.mem_append.mp h with h | h
          · exact Or.inl (ofArgs h)
          · obtain ⟨source, isSource, h⟩ := List.mem_flatMap.mp h
            obtain ⟨f, mem, rfl⟩ := List.mem_map.mp h
            exact Or.inr ⟨source, mem_types_of_mem_fieldSources (Program.resolve_some found).1 isSource,
              f, (List.mem_filter.mp mem).1, rfl⟩
        · simp [Visit.next] at h
  | array element =>
    rw [List.mem_singleton.mp h]
    exact Or.inl (by simp [TypeExpr.parts, TypeExpr.self_mem_parts])
  | optional inner =>
    rw [List.mem_singleton.mp h]
    exact Or.inl (by simp [TypeExpr.parts, TypeExpr.self_mem_parts])
  | param name => simp [visit, Visit.next] at h
  | unresolved => simp [visit, Visit.next] at h

/-- Finitely many types among which a walk stays: with each type there is everything that it leads to. -/
structure Scope (g : TypeGraph) where
  types : List TypeExpr
  closed : ∀ t ∈ types, ∀ u ∈ (g.visit t).next, u ∈ types

/-- The types that a walk from the given types can meet: their parts, and the parts of the types of all
    fields of the program. -/
def scopeOf (g : TypeGraph) (starts : List TypeExpr) : g.Scope where
  types := TypeExpr.partsOf (starts ++ g.program.types.flatMap fun d => d.fields.map (·.type))
  closed := by
    intro t mem u h
    rcases mem_next h with part | ⟨d, isType, f, isField, rfl⟩
    · exact TypeExpr.partsOf_trans mem part
    · refine TypeExpr.mem_partsOf (List.mem_append_right _ ?_) f.type.self_mem_parts
      exact List.mem_flatMap.mpr ⟨d, isType, List.mem_map_of_mem isField⟩

/-- A walk can meet the types that it starts from. -/
theorem mem_scopeOf {g : TypeGraph} {starts : List TypeExpr} {t : TypeExpr} (mem : t ∈ starts) :
    t ∈ (g.scopeOf starts).types :=
  TypeExpr.mem_partsOf (List.mem_append_left _ mem) t.self_mem_parts

namespace Scope

/-- The number of types that are not in a set. -/
def missing {g : TypeGraph} (scope : g.Scope) (set : TypeSet) : Nat :=
  (scope.types.filter fun t => !set.contains t).length

/-- A new member is missing no longer. -/
theorem missing_insert_lt {g : TypeGraph} {scope : g.Scope} {set : TypeSet} {t : TypeExpr}
    (mem : t ∈ scope.types) (new : set.contains t = false) :
    scope.missing (set.insert t) < scope.missing set := by
  refine Program.length_filter_lt mem (fun u h => ?_) (by rw [new]; rfl) ?_
  · rw [TypeSet.contains_insert, Bool.not_or, Bool.and_eq_true] at h
    exact h.2
  · rw [TypeSet.contains_insert, beq_self_eq_true, Bool.true_or, Bool.not_true]

/-- Where a type of the scope leads, and the types that are left to visit besides it, are in the scope. -/
theorem next_inside {g : TypeGraph} {scope : g.Scope} {t : TypeExpr} {rest : List TypeExpr}
    (inside : ∀ u ∈ t :: rest, u ∈ scope.types) :
    ∀ u ∈ (g.visit t).next ++ rest, u ∈ scope.types := by
  intro u mem
  rcases List.mem_append.mp mem with mem | mem
  · exact scope.closed t (inside t List.mem_cons_self) u mem
  · exact inside u (List.mem_cons_of_mem t mem)

end Scope

/-- Visit the pending types and all that they lead to. A member that is met for the first time is put into
    the set before it is followed, and a member of the set is not followed. -/
def walk (g : TypeGraph) (scope : g.Scope) (set : TypeSet) (pending : List TypeExpr)
    (inside : ∀ t ∈ pending, t ∈ scope.types) : TypeSet :=
  match pending with
  | [] => set
  | t :: rest =>
    have inside' : ∀ u ∈ rest, u ∈ scope.types := fun u mem => inside u (List.mem_cons_of_mem t mem)
    have further := scope.next_inside inside
    match visited : g.visit t with
    | .through next => g.walk scope set (next ++ rest) (by rwa [visited] at further)
    | .member next =>
      if set.contains t then g.walk scope set rest inside'
      else g.walk scope (set.insert t) (next ++ rest) (by rwa [visited] at further)
termination_by (scope.missing set, TypeExpr.weight pending)
decreasing_by
  · refine Prod.Lex.right _ ?_
    have := weight_through visited
    rw [TypeExpr.weight_append, TypeExpr.weight_cons]
    omega
  · refine Prod.Lex.right _ ?_
    have := t.parts_length_pos
    rw [TypeExpr.weight_cons]
    omega
  · rename_i new
    exact Prod.Lex.left _ _ (scope.missing_insert_lt (inside t List.mem_cons_self) (by simpa using new))

/-- Add to a set what can be reached from a type without passing a member of the set. -/
def expand (g : TypeGraph) (set : TypeSet) (t : TypeExpr) : TypeSet :=
  g.walk (g.scopeOf [t]) set [t] fun _ mem => mem_scopeOf mem

/-- Whether an input needs no serializer of its own: built-in scalars and what the serving layer supplies. -/
def isPlainInput (g : TypeGraph) (t : TypeExpr) : Bool :=
  t.isPrimitive || t.path?.any g.conventions.isFrameworkType

/-- The types that a route's callers send and receive: those of its parameters, the request context and
    plain inputs that are not taken from the body apart, and the payload of its result. -/
def routeTypes (g : TypeGraph) (e : RouteEntry) : List TypeExpr :=
  let inputs := e.params.filter fun param => !param.isContext
  let expanded := inputs.filter fun param =>
    hasAttribute param.attributes g.conventions.fromBodyMarker || !g.isPlainInput param.type
  expanded.map (·.type) ++ e.returns.payload?.toList

/-- Add to a set what a route mentions, one type after the other. -/
def expandRoute (g : TypeGraph) (set : TypeSet) (e : RouteEntry) : TypeSet :=
  (g.routeTypes e).foldl g.expand set

/-- Everything that can be reached from the routes of the groups. -/
def reachableFrom (g : TypeGraph) (groups : List RouteGroup) : TypeSet :=
  (groups.flatMap (·.entries)).foldl g.expandRoute .empty

end TypeGraph

end RouteScribe
