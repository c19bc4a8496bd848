/-
Module: RouteScribe.Proofs.Reachability.BaseSearch
Layer: Proofs
Purpose: The search for a base type is exact on every program. It is taken apart into its rounds: each looks at one
  declared type and goes on with the base of that, and a type that was looked at before ends the search. The search is
  over after as many rounds as the program has types and one more, and finds the base exactly if it is the base of some
  type on the way.
Imports: Mathlib.Logic.Function.Iterate, RouteScribe.Proofs.Reachability.BaseChain
Trusted boundary: human-reviewed spec
Main exports: BaseSearch, Program.searchRound, Program.iterate_searchRound, Program.derivesFrom_exact
Open obligations: none
-/
import Mathlib.Logic.Function.Iterate
import RouteScribe.Proofs.Reachability.BaseChain

namespace RouteScribe

/-!
### The specification
-/

/-- How far the search for a base has come. -/
inductive BaseSearch where
  /-- The types at the paths `visited` have been looked at, and `current` is next, if it is declared. -/
  | looking (visited : List String) (current : Option Declaration)
  | ended (found : Bool)
deriving DecidableEq, Repr

namespace Program

/-- One round of the search: a type with a base of another name hands the search on to the type of that name. -/
def searchRound (p : Program) (base : String) : BaseSearch → BaseSearch
  | .looking _ none => .ended false
  | .looking visited (some d) =>
    if d.path ∈ visited then .ended false
    else
      match d.basePath? with
      | none => .ended false
      | some parent =>
        if parent = base then .ended true else .looking (d.path :: visited) (p.resolve parent)
  | .ended found => .ended found

variable {p : Program} {base path : String} {visited : List String} {d : Declaration}

/-!
### Rounds
-/

@[simp] theorem searchRound_ended (found : Bool) : p.searchRound base (.ended found) = .ended found := rfl

@[simp] theorem searchRound_undeclared : p.searchRound base (.looking visited none) = .ended false := rfl

theorem searchRound_old (old : d.path ∈ visited) :
    p.searchRound base (.looking visited (some d)) = .ended false := if_pos old

theorem searchRound_noBase (new : d.path ∉ visited) (noBase : d.basePath? = none) :
    p.searchRound base (.looking visited (some d)) = .ended false := by
  simp only [searchRound, if_neg new, noBase]

theorem searchRound_base {parent : String} (new : d.path ∉ visited) (isBase : d.basePath? = some parent) :
    p.searchRound base (.looking visited (some d)) =
      if parent = base then .ended true else .looking (d.path :: visited) (p.resolve parent) := by
  simp only [searchRound, if_neg new, isBase]

/-- A search that is over after one round stays so. -/
theorem iterate_of_round {s : BaseSearch} {found : Bool} (round : p.searchRound base s = .ended found) (n : Nat) :
    (p.searchRound base)^[n + 1] s = .ended found := by
  rw [Function.iterate_succ_apply, round]
  exact Function.iterate_fixed (searchRound_ended found) n

/-- The search ends with what the rest of the base chain says, after at most one round for each type that has not been
    visited and one more. -/
theorem iterate_searchRound {n : Nat} (enough : p.unvisited visited ≤ n) :
    (p.searchRound base)^[n + 1] (.looking visited (p.resolve path)) =
      .ended ((p.chainFrom visited path).any fun d => d.basePath? == some base) := by
  fun_induction chainFrom p visited path generalizing n with
  | case1 visited path undeclared =>
      rw [undeclared]
      exact iterate_of_round searchRound_undeclared n
  | case2 visited path d found old =>
      rw [found]
      exact iterate_of_round (searchRound_old (by simpa using old)) n
  | case3 visited path d found new noBase =>
      have round : p.searchRound base (.looking visited (some d)) = .ended false :=
        searchRound_noBase (by simpa using new) noBase
      rw [found, iterate_of_round round]
      simp [noBase]
  | case4 visited path d found new parent isBase ih =>
      have round : p.searchRound base (.looking visited (some d)) = _ := searchRound_base (by simpa using new) isBase
      rw [found, List.any_cons, isBase]
      by_cases same : parent = base
      · rw [if_pos same] at round
        rw [iterate_of_round round]
        simp [same]
      · -- the round has used up one of the types that had not been visited
        have fewer : p.unvisited (d.path :: visited) < p.unvisited visited :=
          unvisited_cons_lt (resolve_some found).1 new
        obtain ⟨m, rfl⟩ : ∃ m, n = m + 1 := Nat.exists_eq_add_one.mpr (by omega)
        have rest := ih (Nat.le_of_lt_succ (Nat.lt_of_lt_of_le fewer enough))
        rw [if_neg same] at round
        rw [Function.iterate_succ_apply, round, rest]
        simp [same]

theorem unvisited_nil : p.unvisited [] = p.types.length := by
  simp [unvisited]

/-- The search for a base is exact on every program, however its base chains run. It is over after as many rounds as
    there are types and one more, with the answer of `derivesFrom`; and the answer is that by going from a declared type
    to its declared base, any number of times, one comes from `path` to a type whose base is named `base`. The type of
    that name itself need not be declared. -/
theorem derivesFrom_exact (p : Program) (path base : String) :
    (∀ n, p.types.length < n →
      (p.searchRound base)^[n] (.looking [] (p.resolve path)) = .ended (p.derivesFrom path base)) ∧
    (p.derivesFrom path base = true ↔ p.Derives path base) := by
  refine ⟨fun n enough => ?_, derivesFrom_iff⟩
  obtain ⟨m, rfl⟩ : ∃ m, n = m + 1 := Nat.exists_eq_add_one.mpr (Nat.zero_lt_of_lt enough)
  apply iterate_searchRound
  rw [unvisited_nil]
  exact Nat.le_of_lt_succ enough

end Program

end RouteScribe
