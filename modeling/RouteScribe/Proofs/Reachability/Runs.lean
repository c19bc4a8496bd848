/-
Module: RouteScribe.Proofs.Reachability.Runs
Layer: Proofs
Purpose: What a set of types holds after any number of expansions that share it. On a program that was loaded
  from a dump, it holds exactly what can be reached from the types that were expanded, whatever the order of
  the expansions. A route counts as the expansion of all that its callers send and receive.
Imports: Mathlib.Data.List.Sort, RouteScribe.Proofs.Reachability.Walk, RouteScribe.Proofs.Routes.Scanned
Trusted boundary: none
Main exports: Expansion, Expansion.starts, Expansion.Allowed, TypeGraph.run, TypeGraph.expand_exact,
  TypeGraph.perform_exact, TypeGraph.run_exact
Open obligations: none
-/
import Mathlib.Data.List.Sort
import RouteScribe.Proofs.Reachability.Walk
import RouteScribe.Proofs.Routes.Scanned

namespace RouteScribe

open Relation (ReflTransGen)
open TypeExpr (Writable)

/-- A request to add to a set of types. -/
inductive Expansion where
  /-- Add what can be reached from a type. -/
  | type (t : TypeExpr)
  /-- Add what can be reached from a route. -/
  | route (e : RouteEntry)
deriving Repr

namespace Expansion

/-- The types from which a request starts: for a route, the types of all parameters but the request context,
    wherever they are taken from, and the payload of the result. -/
def starts : Expansion → List TypeExpr
  | .type t => [t]
  | .route e => (e.params.filter fun param => !param.isContext).map (·.type) ++ e.returns.payload?.toList

/-- Whether a request can be made on a program: types are given by their texts, and routes are found by
    scanning the program. -/
def Allowed (p : Program) : Expansion → Prop
  | .type t => ∃ text, TypeExpr.parse text = .ok t
  | .route e => ∃ conv, ∃ group ∈ (scan p conv).groups, e ∈ group.entries

theorem Allowed.writable {p : Program} {s : Expansion} (allowed : s.Allowed p) (written : p.Written) :
    ∀ t ∈ s.starts, Writable t := by
  intro t mem
  cases s with
  | type t' =>
      rw [List.mem_singleton.mp mem]
      exact TypeExpr.writable_iff.mpr allowed
  | route e =>
      obtain ⟨conv, group, isGroup, isEntry⟩ := allowed
      obtain ⟨d, isType, m, isMethod, handled⟩ := handledBy_of_mem_scan isGroup isEntry
      refine handled.writable ((written d isType).methods m isMethod) t ?_
      rcases List.mem_append.mp mem with mem | mem
      · obtain ⟨param, isInput, rfl⟩ := List.mem_map.mp mem
        exact List.mem_append_left _ (List.mem_map_of_mem (List.mem_filter.mp isInput).1)
      · exact List.mem_append_right _ mem

end Expansion

namespace TypeGraph

/-- The set after a request. -/
def perform (g : TypeGraph) (set : TypeSet) : Expansion → TypeSet
  | .type t => g.expand set t
  | .route e => g.expandRoute set e

/-- The set that a sequence of requests builds up from the empty one. -/
def run (g : TypeGraph) (steps : List Expansion) : TypeSet := steps.foldl g.perform .empty

variable {g : TypeGraph}

/-!
### Single types
-/

theorem balanced_empty : g.Balanced .empty [] := ⟨nofun, nofun, nofun, nofun⟩

theorem Balanced.push {set : TypeSet} {t : TypeExpr} (balanced : g.Balanced set []) (writable : Writable t) :
    g.Balanced set [t] where
  written := balanced.written
  pendingWritten := List.forall_mem_singleton.mpr writable
  members := balanced.members
  covered s mem u visits := (balanced.covered s mem u visits).mono nofun fun _ mem => .taken mem

/-- An expansion of a type keeps the set closed under visits and adds exactly what can be reached. -/
theorem expand_exact {set : TypeSet} {t : TypeExpr} (written : g.program.Written)
    (balanced : g.Balanced set []) (writable : Writable t) :
    g.Balanced (g.expand set t) [] ∧
      ∀ u, u ∈ (g.expand set t).members ↔ u ∈ set.members ∨ g.Reaches t u := by
  have pushed := balanced.push writable
  refine ⟨(walk_balanced written pushed).1, fun u => ?_⟩
  rw [expand, mem_walk_iff written pushed]
  simp

theorem foldl_expand_exact {ts : List TypeExpr} {set : TypeSet} (written : g.program.Written)
    (balanced : g.Balanced set []) (writable : ∀ t ∈ ts, Writable t) :
    g.Balanced (ts.foldl g.expand set) [] ∧
      ∀ u, u ∈ (ts.foldl g.expand set).members ↔ u ∈ set.members ∨ ∃ t ∈ ts, g.Reaches t u := by
  induction ts generalizing set with
  | nil => exact ⟨balanced, by simp⟩
  | cons t ts ih =>
      obtain ⟨first, others⟩ := List.forall_mem_cons.mp writable
      obtain ⟨balanced', exact'⟩ := expand_exact written balanced first
      obtain ⟨closed, exact''⟩ := ih balanced' others
      refine ⟨closed, fun u => ?_⟩
      rw [List.foldl_cons, exact'', exact', or_assoc]
      simp

/-!
### Routes

Plain inputs are left out of the expansion of a route unless they are taken from the body. That makes no
difference: nothing can be reached from them.
-/

theorem not_reaches_of_isGiven {path : String} {args : List TypeExpr} {u : TypeExpr}
    (given : g.IsGiven path args) : ¬ g.Reaches (.named path args) u := by
  rintro ⟨visits, isMember⟩
  rcases ReflTransGen.cases_head visits with rfl | ⟨v, visit, -⟩
  · obtain ⟨d, shape⟩ := isMember_named.mp isMember
    exact shape.notGiven given
  · cases visit with
    | undeclared notGiven _ _ => exact notGiven given
    | argument shape _ => exact shape.notGiven given
    | field shape _ _ _ => exact shape.notGiven given

theorem not_reaches_of_isPlainInput {t u : TypeExpr} (plain : g.isPlainInput t = true) :
    ¬ g.Reaches t u := by
  cases t with
  | named path args =>
      refine not_reaches_of_isGiven ?_
      simpa [isPlainInput, TypeExpr.path?, IsGiven] using plain
  | _ => simp [isPlainInput, TypeExpr.isPrimitive, TypeExpr.path?] at plain

/-- A route's plain inputs do not count, so its expansion can be taken to start from all its inputs. -/
theorem exists_reaches_routeTypes {e : RouteEntry} {u : TypeExpr} :
    (∃ t ∈ g.routeTypes e, g.Reaches t u) ↔ ∃ t ∈ (Expansion.route e).starts, g.Reaches t u := by
  simp only [routeTypes, Expansion.starts, List.mem_append, List.mem_map, List.mem_filter]
  constructor
  · rintro ⟨t, ⟨param, ⟨isInput, -⟩, rfl⟩ | isPayload, reaches⟩
    · exact ⟨_, Or.inl ⟨param, isInput, rfl⟩, reaches⟩
    · exact ⟨t, Or.inr isPayload, reaches⟩
  · rintro ⟨t, ⟨param, isInput, rfl⟩ | isPayload, reaches⟩
    · have notPlain : g.isPlainInput param.type = false := by
        cases plain : g.isPlainInput param.type with
        | false => rfl
        | true => exact absurd reaches (not_reaches_of_isPlainInput plain)
      exact ⟨_, Or.inl ⟨param, ⟨isInput, by simp [notPlain]⟩, rfl⟩, reaches⟩
    · exact ⟨t, Or.inr isPayload, reaches⟩

theorem mem_starts_of_mem_routeTypes {e : RouteEntry} {t : TypeExpr} (mem : t ∈ g.routeTypes e) :
    t ∈ (Expansion.route e).starts := by
  simp only [routeTypes, Expansion.starts, List.mem_append, List.mem_map, List.mem_filter] at mem ⊢
  rcases mem with ⟨param, ⟨isInput, -⟩, rfl⟩ | isPayload
  · exact Or.inl ⟨param, isInput, rfl⟩
  · exact Or.inr isPayload

/-!
### Runs
-/

/-- One request keeps the set closed under visits and adds exactly what can be reached from its types. -/
theorem perform_exact {s : Expansion} {set : TypeSet} (written : g.program.Written)
    (balanced : g.Balanced set []) (writable : ∀ t ∈ s.starts, Writable t) :
    g.Balanced (g.perform set s) [] ∧
      ∀ u, u ∈ (g.perform set s).members ↔ u ∈ set.members ∨ ∃ t ∈ s.starts, g.Reaches t u := by
  cases s with
  | type t =>
      obtain ⟨closed, exact'⟩ := expand_exact written balanced (writable t List.mem_cons_self)
      exact ⟨closed, fun u => by simp [perform, Expansion.starts, exact']⟩
  | route e =>
      obtain ⟨closed, exact'⟩ := foldl_expand_exact written balanced fun t mem =>
        writable t (g.mem_starts_of_mem_routeTypes mem)
      refine ⟨closed, fun u => ?_⟩
      rw [← exists_reaches_routeTypes]
      exact exact' u

theorem foldl_perform_exact {steps : List Expansion} {set : TypeSet} (written : g.program.Written)
    (balanced : g.Balanced set []) (allowed : ∀ s ∈ steps, s.Allowed g.program) :
    ∀ u, u ∈ (steps.foldl g.perform set).members ↔
      u ∈ set.members ∨ ∃ s ∈ steps, ∃ t ∈ s.starts, g.Reaches t u := by
  induction steps generalizing set with
  | nil => simp
  | cons s steps ih =>
      obtain ⟨first, others⟩ := List.forall_mem_cons.mp allowed
      obtain ⟨balanced', exact'⟩ := perform_exact written balanced (first.writable written)
      intro u
      rw [List.foldl_cons, ih balanced' others, exact', or_assoc]
      simp

end TypeGraph

/-- Sets with the same members are the same, as they list them in the same order. -/
theorem TypeSet.ext_members {s s' : TypeSet} (same : ∀ t, t ∈ s.members ↔ t ∈ s'.members) : s = s' := by
  obtain ⟨members, ordered⟩ := s
  obtain ⟨members', ordered'⟩ := s'
  have irrefl : Std.Irrefl fun t u : TypeExpr => t.text < u.text := ⟨fun t => String.lt_irrefl t.text⟩
  have antisymm : Std.Antisymm fun t u : TypeExpr => t.text < u.text :=
    ⟨fun t u less greater => absurd greater (String.lt_asymm less)⟩
  have eq : members = members' := ordered.eq_of_mem_iff ordered' same
  subst eq
  rfl

namespace TypeGraph

/-- On a program that was loaded from a dump, a run of requests builds up exactly the set of all members that
    can be reached from the types the requests start from, so it does not matter in which order the requests
    are made and how often each is. -/
theorem run_exact {g : TypeGraph} {steps : List Expansion} (loaded : g.program.Loaded)
    (allowed : ∀ s ∈ steps, s.Allowed g.program) :
    (∀ u, u ∈ (g.run steps).members ↔ ∃ s ∈ steps, ∃ t ∈ s.starts, g.Reaches t u) ∧
      ∀ steps', (∀ s, s ∈ steps' ↔ s ∈ steps) → g.run steps' = g.run steps := by
  have members (steps : List Expansion) (allowed : ∀ s ∈ steps, s.Allowed g.program) (u : TypeExpr) :
      u ∈ (g.run steps).members ↔ ∃ s ∈ steps, ∃ t ∈ s.starts, g.Reaches t u := by
    rw [run, foldl_perform_exact loaded.written balanced_empty allowed]
    simp [TypeSet.empty]
  refine ⟨members steps allowed, fun steps' same => TypeSet.ext_members fun u => ?_⟩
  rw [members steps' fun s mem => allowed s ((same s).mp mem), members steps allowed]
  simp only [same]

/-- A dump in which a type leads back to itself and a route hands it out. -/
def loopText : String :=
  "\x7b\"types\":[\x7b\"path\":\"N\",\"fields\":[\x7b\"name\":\"n\",\"type\":\"[N]\"\x7d]\x7d," ++
    "\x7b\"path\":\"A\",\"attributes\":[\x7b\"name\":\"r::RouteGroup\"\x7d],\"methods\":[\x7b\"name\":\"g\"," ++
    "\"returns\":\"N\",\"attributes\":[\x7b\"name\":\"r::HttpGet\"\x7d]\x7d]\x7d]\x7d"

/-- The declarations of the dump. -/
def loopDeclarations : List Declaration :=
  [{ path := "N", fields := [{ name := "n", type := .array (.named "N" []) }] },
   { path := "A", attributes := [⟨"r::RouteGroup", [], []⟩],
     methods := [{ name := "g", returns := some (.named "N" []), attributes := [⟨"r::HttpGet", [], []⟩] }] }]

/-- The program of the dump, with inherited fields. -/
def loopGraph : TypeGraph := ⟨.ofDeclarations loopDeclarations, .ofNamespace "r", true⟩

/-- The route of the dump. -/
def loopRoute : RouteEntry :=
  { group := "A", handler := "g", template := "", verbs := .singleton .get, params := [],
    returns := .payload (.named "N" []) (some (.named "N" [])) false, attributes := [],
    isStatic := false, isAsync := false }

set_option maxRecDepth 4000 in
theorem loopGraph_loaded : loopGraph.program.Loaded := by
  apply @Program.Loaded.ofJson loopText
  case reads =>
    delta loopText
    simp only [String.reduceAppend, String.reduceToList]
    repeat first
      | exact Json.ReadsText.close
      | apply Json.ReadsText.char (by decide)
      | exact Json.ReadsItems.close
      | exact Json.ReadsMembers.close
      | apply Json.ReadsValue.text
      | apply Json.ReadsValue.list
      | apply Json.ReadsValue.object
      | apply Json.ReadsItems.item
      | apply Json.ReadsMembers.member
      | apply Json.ReadsItems.first (by decide) (by decide)
      | apply Json.ReadsItems.next (by decide) (by decide)
      | apply Json.ReadsMembers.first (by decide) (by decide)
      | apply Json.ReadsMembers.next (by decide) (by decide)
  case returns => cbv

theorem loopRoute_allowed : (Expansion.route loopRoute).Allowed loopGraph.program := by
  have groups : (scan loopGraph.program (.ofNamespace "r")).groups = [⟨"A", "", [loopRoute]⟩] := by
    decide +kernel
  refine ⟨.ofNamespace "r", ⟨"A", "", [loopRoute]⟩, ?_, List.mem_cons_self⟩
  rw [groups]
  exact List.mem_cons_self

/-- A run on the program of the dump: a type that has no declaration, the route, and a type again. -/
theorem run_exact_loop :
    let steps : List Expansion := [.type (.named "Map" [.named "N" []]), .route loopRoute,
      .type (.optional (.named "N" []))]
    (∀ u, u ∈ (loopGraph.run steps).members ↔ ∃ s ∈ steps, ∃ t ∈ s.starts, loopGraph.Reaches t u) ∧
      loopGraph.run steps.reverse = loopGraph.run steps := by
  intro steps
  have allowed : ∀ s ∈ steps, s.Allowed loopGraph.program := by
    intro s mem
    simp only [steps, List.mem_cons, List.not_mem_nil, or_false] at mem
    rcases mem with rfl | rfl | rfl
    · exact ⟨"Map<N>", by cbv⟩
    · exact loopRoute_allowed
    · exact ⟨"Option<N>", by cbv⟩
  obtain ⟨members, order⟩ := run_exact loopGraph_loaded allowed
  exact ⟨members, order _ fun s => List.mem_reverse⟩

end TypeGraph

end RouteScribe
