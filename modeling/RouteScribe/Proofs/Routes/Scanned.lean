/-
Module: RouteScribe.Proofs.Routes.Scanned
Layer: Proofs
Purpose: Where the routes of a program come from. Every route was made for a marked public method of a type
  with a group marker, and the types that it mentions are parts of the types in the method's signature.
Imports: RouteScribe.Proofs.Dump.WrittenTypes, RouteScribe.Scan, RouteScribe.TypeGraph
Trusted boundary: none
Main exports: groupTypes, mem_entries_of_scan, RouteEntry.Handles, RouteEntry.Handles.writable
Open obligations: none
-/
import RouteScribe.Proofs.Dump.WrittenTypes
import RouteScribe.Scan
import RouteScribe.TypeGraph

namespace RouteScribe

open TypeExpr (Writable)

/-!
### Parts of signatures
-/

namespace TypeExpr

mutual

/-- All parts of a type that was read were read. -/
theorem Writable.of_mem_parts {t u : TypeExpr} (writable : Writable t) (part : u ∈ parts t) : Writable u := by
  cases t with
  | named path args =>
      rcases List.mem_cons.mp part with rfl | part
      · exact writable
      · exact Writable.of_mem_partsOf (fun _ mem => writable.of_mem_args mem) part
  | array element =>
      rcases List.mem_cons.mp part with rfl | part
      · exact writable
      · cases writable with
        | array inner => exact inner.of_mem_parts part
  | optional element =>
      rcases List.mem_cons.mp part with rfl | part
      · exact writable
      · cases writable with
        | optional inner => exact inner.of_mem_parts part
  | param name => rwa [List.mem_singleton.mp part]
  | unresolved => rwa [List.mem_singleton.mp part]

theorem Writable.of_mem_partsOf {ts : List TypeExpr} {u : TypeExpr} (writable : ∀ t ∈ ts, Writable t)
    (part : u ∈ partsOf ts) : Writable u := by
  cases ts with
  | nil => cases part
  | cons t ts =>
      obtain ⟨first, others⟩ := List.forall_mem_cons.mp writable
      rcases List.mem_append.mp part with part | part
      · exact first.of_mem_parts part
      · exact Writable.of_mem_partsOf others part

end

end TypeExpr

/-!
### Payloads
-/

section

open TypeExpr

variable {conv : Conventions}

mutual

theorem mem_parts_of_unwrapPayload {t u : TypeExpr} (unwrapped : unwrapPayload conv t = some u) :
    u ∈ t.parts := by
  have whole {t : TypeExpr} (unwrapped : some t = some u) : u ∈ t.parts := by
    cases unwrapped
    exact u.self_mem_parts
  cases t with
  | named path args =>
      rw [unwrapPayload.eq_def] at unwrapped
      split at unwrapped
      · rename_i found
        cases found
        split at unwrapped
        · split at unwrapped
          · rename_i inner
            rw [parts, partsOf, partsOf, List.append_nil]
            exact List.mem_cons_of_mem _ (mem_parts_of_unwrapPayload unwrapped)
          · cases unwrapped
        · split at unwrapped
          · exact List.mem_cons_of_mem _ (mem_partsOf_of_firstPayload unwrapped)
          · split at unwrapped
            · cases unwrapped
            · split at unwrapped
              · cases unwrapped
              · exact whole unwrapped
      · rename_i other
        exact absurd rfl (other path args)
  | array element => exact whole unwrapped
  | optional inner => exact whole unwrapped
  | param name => exact whole unwrapped
  | unresolved => exact whole unwrapped

theorem mem_partsOf_of_firstPayload {ts : List TypeExpr} {u : TypeExpr}
    (unwrapped : firstPayload conv ts = some u) : u ∈ partsOf ts := by
  cases ts with
  | nil => cases unwrapped
  | cons t ts =>
      rw [firstPayload] at unwrapped
      split at unwrapped
      · rename_i payload first
        cases unwrapped
        exact List.mem_append_left _ (mem_parts_of_unwrapPayload first)
      · exact List.mem_append_right _ (mem_partsOf_of_firstPayload unwrapped)

end

theorem mem_parts_of_peelAsync {t u : TypeExpr} (peeled : (ReturnShape.peelAsync conv t).1 = some u) :
    u ∈ t.parts := by
  fun_induction ReturnShape.peelAsync conv t with
  | case1 => cases peeled
  | case2 path => cases peeled; exact self_mem_parts _
  | case3 path arg args _ ih =>
      rw [parts]
      exact List.mem_cons_of_mem _ (mem_partsOf List.mem_cons_self (ih peeled))
  | case4 path arg args => cases peeled; exact self_mem_parts _
  | case5 t => cases peeled; exact self_mem_parts _

/-- The payload of a route is part of its handler's return type. -/
theorem mem_parts_of_payload? {returns : Option TypeExpr} {declaredAsync : Bool} {u : TypeExpr}
    (payload : (ReturnShape.ofSignature returns declaredAsync conv).payload? = some u) :
    ∃ t ∈ returns, u ∈ t.parts := by
  cases returns with
  | none => cases declaredAsync <;> cases payload
  | some t =>
      refine ⟨t, rfl, ?_⟩
      simp only [ReturnShape.ofSignature] at payload
      split at payload
      · split at payload <;> cases payload
      · rename_i left peeled
        split at payload
        · split at payload <;> cases payload
        · exact parts_trans (mem_parts_of_peelAsync peeled) (mem_parts_of_unwrapPayload payload)

end

/-!
### Routes and their handlers
-/

/-- The types that group routes, in the order of their first marked parts. -/
def groupTypes (p : Program) (conv : Conventions) : List Declaration :=
  (groupPaths p conv).filterMap p.resolve

theorem mem_types_of_mem_groupTypes {p : Program} {conv : Conventions} {d : Declaration}
    (mem : d ∈ groupTypes p conv) : d ∈ p.types := by
  obtain ⟨path, -, found⟩ := List.mem_filterMap.mp mem
  exact (Program.resolve_some found).1

/-- Whether a method is the handler of a route, as far as the types go that the route mentions. -/
structure RouteEntry.HandledBy (conv : Conventions) (e : RouteEntry) (m : Method) : Prop where
  params : e.params = routeParams conv false m.params
  returns : e.returns = .ofSignature m.returns m.isAsync conv

theorem handledBy_of_mem_scanMethod {p : Program} {conv : Conventions} {group : String} {m : Method}
    {e : RouteEntry} (mem : e ∈ (scanMethod p conv group m).1) : e.HandledBy conv m := by
  simp only [scanMethod] at mem
  split at mem
  · cases mem
  · split at mem
    · cases mem
    · obtain ⟨marker, -, rfl⟩ := List.mem_map.mp mem
      exact ⟨rfl, rfl⟩

/-- Every route of a scan has a public method of a group's type as its handler. -/
theorem handledBy_of_mem_scan {p : Program} {conv : Conventions} {group : RouteGroup} {e : RouteEntry}
    (isGroup : group ∈ (scan p conv).groups) (mem : e ∈ group.entries) :
    ∃ d ∈ p.types, ∃ m ∈ d.methods, e.HandledBy conv m := by
  simp only [scan, List.map_map, List.mem_map] at isGroup
  obtain ⟨d, isType, rfl⟩ := isGroup
  simp only [Function.comp, scanGroup, List.mem_flatMap, List.mem_map] at mem
  obtain ⟨_, ⟨m, isMethod, rfl⟩, mem⟩ := mem
  exact ⟨d, mem_types_of_mem_groupTypes isType, m, (List.mem_filter.mp isMethod).1,
    handledBy_of_mem_scanMethod mem⟩

theorem type_mem_of_mem_routeParams {conv : Conventions} {seen : Bool} {params : List Parameter}
    {param : RouteParam} (mem : param ∈ routeParams conv seen params) :
    ∃ source ∈ params, source.type = param.type := by
  fun_induction routeParams conv seen params with
  | case1 => cases mem
  | case2 seen source sources isContext ih =>
      rcases List.mem_cons.mp mem with rfl | mem
      · exact ⟨source, List.mem_cons_self, rfl⟩
      · obtain ⟨other, isOther, same⟩ := ih mem
        exact ⟨other, List.mem_cons_of_mem _ isOther, same⟩

/-- The types that a route mentions. -/
def RouteEntry.mentioned (e : RouteEntry) : List TypeExpr :=
  e.params.map (·.type) ++ e.returns.payload?.toList

/-- Where all types were read from texts, those that a route mentions were. -/
theorem RouteEntry.HandledBy.writable {conv : Conventions} {e : RouteEntry} {m : Method}
    (handled : e.HandledBy conv m) (written : m.Written) : ∀ t ∈ e.mentioned, Writable t := by
  intro t mem
  rcases List.mem_append.mp mem with mem | mem
  · obtain ⟨param, isParam, rfl⟩ := List.mem_map.mp mem
    rw [handled.params] at isParam
    obtain ⟨source, isSource, same⟩ := type_mem_of_mem_routeParams isParam
    rw [← same]
    exact written.params source isSource
  · rw [handled.returns] at mem
    obtain ⟨returned, isReturned, part⟩ := mem_parts_of_payload? (Option.mem_toList.mp mem)
    exact (written.returns returned isReturned).of_mem_parts part

end RouteScribe
