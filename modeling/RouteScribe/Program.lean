/-
Module: RouteScribe.Program
Layer: Declarations
Purpose: A program: its declarations in source order, and the types that they declare, one for each path, the
  parts of a type put together. A path is resolved to its type, and from a path one can follow the
  declared base types upwards until they end or repeat.
Imports: RouteScribe.Declaration
Trusted boundary: human-reviewed spec
Main exports: Program, Program.ofDeclarations, Program.resolve, Program.baseChain
Open obligations: none
-/
import RouteScribe.Declaration

namespace RouteScribe

/-- Add one part to the types known so far: to the type of its path, or as a new type at the end. -/
def absorbPart : List Declaration → Declaration → List Declaration
  | [], part => [part]
  | known :: rest, part =>
    if known.path = part.path then known.absorb part :: rest else known :: absorbPart rest part

/-- The types of a list of declarations, one for each path, in the order of their first parts. -/
def mergeParts (parts : List Declaration) : List Declaration := parts.foldl absorbPart []

/-- A program. The types are always those of the declarations. -/
structure Program where
  declarations : List Declaration
  types : List Declaration
  types_eq : types = mergeParts declarations

namespace Program

/-- The program of a list of declarations. -/
def ofDeclarations (declarations : List Declaration) : Program :=
  ⟨declarations, mergeParts declarations, rfl⟩

/-- The program without any type. -/
def empty : Program := ofDeclarations []

/-- The type that is declared under a path. -/
def resolve (p : Program) (path : String) : Option Declaration :=
  p.types.find? (·.path == path)

/-- A resolved type is one of the program's types and has the path that was asked for. -/
theorem resolve_some {p : Program} {path : String} {d : Declaration} (h : p.resolve path = some d) :
    d ∈ p.types ∧ d.path = path := by
  have mem := List.mem_of_find?_eq_some h
  have found := List.find?_some h
  exact ⟨mem, by simpa using found⟩

/-- The number of types whose paths have not been visited. -/
def unvisited (p : Program) (visited : List String) : Nat :=
  (p.types.filter fun d => !visited.contains d.path).length

/-- A stricter test that turns down a member of the list passes fewer members. -/
theorem length_filter_lt {α : Type} {strict loose : α → Bool} {xs : List α} {x : α} (mem : x ∈ xs)
    (weaker : ∀ y, strict y = true → loose y = true) (passes : loose x = true)
    (fails : strict x = false) : (xs.filter strict).length < (xs.filter loose).length := by
  have le (ys : List α) : (ys.filter strict).length ≤ (ys.filter loose).length := by
    rw [← List.countP_eq_length_filter, ← List.countP_eq_length_filter]
    exact List.countP_mono_left fun y _ => weaker y
  induction xs with
  | nil => cases mem
  | cons y ys ih =>
    rcases List.mem_cons.mp mem with rfl | mem'
    · have := le ys
      simp [passes, fails]
      omega
    · have step := ih mem'
      cases hs : strict y with
      | true => simp [hs, weaker y hs, step]
      | false => cases hl : loose y <;> simp [hs, hl] <;> omega

/-- Visiting a type for the first time leaves fewer unvisited types. -/
theorem unvisited_cons_lt {p : Program} {visited : List String} {d : Declaration}
    (mem : d ∈ p.types) (new : ¬ visited.contains d.path = true) :
    p.unvisited (d.path :: visited) < p.unvisited visited := by
  refine length_filter_lt mem (fun e h => ?_) (by simpa using new) (by simp)
  simp only [List.contains_cons, Bool.not_or, Bool.and_eq_true] at h
  exact h.2

/-- The type at a path, its base type, the base type of that, and so on, without the types at paths
    visited before. The chain ends where a path is not declared, where a type has no named base, and
    where it would repeat. -/
def chainFrom (p : Program) (visited : List String) (path : String) : List Declaration :=
  match _found : p.resolve path with
  | none => []
  | some d =>
    if _new : visited.contains d.path then []
    else
      match d.basePath? with
      | none => [d]
      | some base => d :: p.chainFrom (d.path :: visited) base
termination_by p.unvisited visited
decreasing_by exact unvisited_cons_lt (resolve_some _found).1 _new

/-- The types of a chain are types of the program. -/
theorem mem_types_of_mem_chainFrom {p : Program} {visited : List String} {path : String}
    {d : Declaration} (mem : d ∈ p.chainFrom visited path) : d ∈ p.types := by
  fun_induction chainFrom p visited path with
  | case1 => cases mem
  | case2 => cases mem
  | case3 visited path e found _ _ =>
    rw [List.mem_singleton.mp mem]
    exact (resolve_some found).1
  | case4 visited path e found _ base _ ih =>
    rcases List.mem_cons.mp mem with rfl | mem
    · exact (resolve_some found).1
    · exact ih mem

/-- The type at a path and the types it derives from. -/
def baseChain (p : Program) (path : String) : List Declaration := p.chainFrom [] path

/-- Whether a type derives from the type at `base`, through any number of declared base types. -/
def derivesFrom (p : Program) (path base : String) : Bool :=
  (p.baseChain path).any fun d => d.basePath? == some base

end Program

end RouteScribe
