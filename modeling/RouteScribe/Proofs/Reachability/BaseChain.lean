/-
Module: RouteScribe.Proofs.Reachability.BaseChain
Layer: Proofs
Purpose: The base chain of a type holds exactly the types that can be reached from it by going from a type to
  its declared base, on every program: a chain that comes back to a type it has visited has nothing new to
  offer from there on.
Imports: RouteScribe.Program, Mathlib.Logic.Relation
Trusted boundary: none
Main exports: Program.BaseStep, Program.mem_baseChain, Program.Derives, Program.derivesFrom_iff
Open obligations: none
-/
import Mathlib.Logic.Relation
import RouteScribe.Program

namespace RouteScribe.Program

open Relation (ReflTransGen)

/-- `BaseStep p d e` says that `e` is the declared base of `d`. -/
def BaseStep (p : Program) (d e : Declaration) : Prop :=
  ∃ base, d.basePath? = some base ∧ p.resolve base = some e

theorem resolve_path {p : Program} {path : String} {d : Declaration} (found : p.resolve path = some d) :
    p.resolve d.path = some d := by
  rw [(resolve_some found).2, found]

theorem resolve_inj {p : Program} {path path' : String} {d e : Declaration}
    (found : p.resolve path = some d) (found' : p.resolve path' = some e) (same : e.path = d.path) :
    e = d := by
  have eq := resolve_path found'
  rw [same, resolve_path found] at eq
  exact (Option.some.inj eq).symm

/-- A chain holds only types that its first type derives from. -/
theorem chainFrom_sound {p : Program} {visited : List String} {path : String} {e : Declaration}
    (mem : e ∈ p.chainFrom visited path) :
    ∃ d, p.resolve path = some d ∧ ReflTransGen p.BaseStep d e := by
  fun_induction chainFrom p visited path with
  | case1 => cases mem
  | case2 => cases mem
  | case3 visited path d found =>
      rw [List.mem_singleton.mp mem]
      exact ⟨d, found, .refl⟩
  | case4 visited path d found _ base isBase ih =>
      rcases List.mem_cons.mp mem with rfl | mem
      · exact ⟨e, found, .refl⟩
      · obtain ⟨d', found', steps⟩ := ih mem
        exact ⟨d, found, .head ⟨base, isBase, found'⟩ steps⟩

/-- A chain starts with the type at its path unless that has been visited. -/
theorem head_mem_chainFrom {p : Program} {visited : List String} {path : String} {d : Declaration}
    (found : p.resolve path = some d) : d ∈ p.chainFrom visited path ∨ d.path ∈ visited := by
  fun_cases chainFrom p visited path with
  | case1 none => rw [found] at none; cases none
  | case2 e found' old =>
      cases found.symm.trans found'
      exact Or.inr (by simpa using old)
  | case3 e found' =>
      cases found.symm.trans found'
      exact Or.inl (by simp)
  | case4 e found' =>
      cases found.symm.trans found'
      exact Or.inl (by simp)

/-- From every type of a chain, the base is in the chain too unless that has been visited. -/
theorem step_mem_chainFrom {p : Program} {visited : List String} {path : String} {e e' : Declaration}
    (mem : e ∈ p.chainFrom visited path) (step : p.BaseStep e e') :
    e' ∈ p.chainFrom visited path ∨ e'.path ∈ visited := by
  obtain ⟨base', isBase', found'⟩ := step
  fun_induction chainFrom p visited path with
  | case1 => cases mem
  | case2 => cases mem
  | case3 visited path d _ _ noBase =>
      rw [List.mem_singleton.mp mem, noBase] at isBase'
      cases isBase'
  | case4 visited path d found _ base isBase ih =>
      -- the rest of the chain has the base of every type in it, unless this is `d` or was visited before
      have rest : e' ∈ p.chainFrom (d.path :: visited) base ∨ e'.path ∈ d.path :: visited := by
        rcases List.mem_cons.mp mem with rfl | mem
        · cases isBase.symm.trans isBase'
          exact head_mem_chainFrom found'
        · exact ih mem
      rcases rest with later | old
      · exact Or.inl (List.mem_cons_of_mem _ later)
      · rcases List.mem_cons.mp old with same | old
        · rw [resolve_inj found found' same]
          exact Or.inl List.mem_cons_self
        · exact Or.inr old

theorem chainFrom_undeclared {p : Program} {visited : List String} {path : String}
    (undeclared : p.resolve path = none) : p.chainFrom visited path = [] := by
  fun_cases chainFrom p visited path with
  | case1 => rfl
  | case2 => rfl
  | case3 d found => rw [undeclared] at found; cases found
  | case4 d found => rw [undeclared] at found; cases found

theorem chainFrom_old {p : Program} {visited : List String} {path : String} {d : Declaration}
    (found : p.resolve path = some d) (old : d.path ∈ visited) : p.chainFrom visited path = [] := by
  fun_cases chainFrom p visited path with
  | case1 => rfl
  | case2 => rfl
  | case3 e found' new =>
      cases found.symm.trans found'
      exact absurd (by simpa using old) new
  | case4 e found' new =>
      cases found.symm.trans found'
      exact absurd (by simpa using old) new

/-- Behind a type that has not been visited, a chain goes on with its base. -/
theorem chainFrom_new {p : Program} {visited : List String} {path : String} {d : Declaration}
    (found : p.resolve path = some d) (new : d.path ∉ visited) :
    p.chainFrom visited path = d :: d.basePath?.toList.flatMap (p.chainFrom (d.path :: visited)) := by
  fun_cases chainFrom p visited path with
  | case1 none => rw [found] at none; cases none
  | case2 e found' old =>
      cases found.symm.trans found'
      exact absurd (by simpa using old) new
  | case3 e found' _ noBase =>
      cases found.symm.trans found'
      simp [noBase]
  | case4 e found' _ base isBase =>
      cases found.symm.trans found'
      simp [isBase]

/-- The base chain of a path holds the type at the path and all that it derives from, and nothing else. -/
theorem mem_baseChain {p : Program} {path : String} {e : Declaration} :
    e ∈ p.baseChain path ↔ ∃ d, p.resolve path = some d ∧ ReflTransGen p.BaseStep d e := by
  refine ⟨chainFrom_sound, ?_⟩
  rintro ⟨d, found, steps⟩
  induction steps with
  | refl =>
      rcases (head_mem_chainFrom found : d ∈ p.chainFrom [] path ∨ d.path ∈ []) with mem | old
      · exact mem
      · cases old
  | tail _ step ih =>
      rcases step_mem_chainFrom ih step with mem | old
      · exact mem
      · cases old

/-- `Derives p path base` says that the type at `path` derives from the type at `base`: going from a type to
    its declared base, one comes to a type whose base is named `base`. -/
def Derives (p : Program) (path base : String) : Prop :=
  ∃ d, p.resolve path = some d ∧ ∃ e, ReflTransGen p.BaseStep d e ∧ e.basePath? = some base

theorem derivesFrom_iff {p : Program} {path base : String} :
    p.derivesFrom path base = true ↔ p.Derives path base := by
  simp only [derivesFrom, List.any_eq_true, mem_baseChain, beq_iff_eq]
  constructor
  · rintro ⟨e, ⟨d, found, steps⟩, isBase⟩
    exact ⟨d, found, e, steps, isBase⟩
  · rintro ⟨d, found, e, steps, isBase⟩
    exact ⟨e, ⟨d, found, steps⟩, isBase⟩

instance (p : Program) (path base : String) : Decidable (p.Derives path base) :=
  decidable_of_iff _ derivesFrom_iff

end RouteScribe.Program
