/-
Module: RouteScribe.Proofs.Reachability.Walk
Layer: Proofs
Purpose: A walk adds to the set exactly what can be reached from the pending types. A member is put into the
  set before what it leads to has been visited, so at most times the set is not closed under visits. What
  holds all the time is that everything a member leads to is covered: it is pending, it is a member already,
  or it is passed through to types that are covered.
Imports: RouteScribe.Proofs.Reachability.Visits
Trusted boundary: none
Main exports: TypeGraph.Covered, TypeGraph.Balanced, TypeGraph.walk_sound, TypeGraph.walk_balanced,
  TypeGraph.mem_walk_iff
Open obligations: none
-/
import RouteScribe.Proofs.Reachability.Visits

namespace RouteScribe.TypeGraph

open Relation (ReflTransGen)
open TypeExpr (Writable)

variable {g : TypeGraph}

/-!
### The walk invents nothing
-/

/-- Every new member can be reached from a pending type, whatever the set was like before. -/
theorem walk_sound {scope : g.Scope} {set : TypeSet} {pending : List TypeExpr}
    {inside : ∀ t ∈ pending, t ∈ scope.types} {u : TypeExpr}
    (mem : u ∈ (g.walk scope set pending inside).members) :
    u ∈ set.members ∨ ∃ t ∈ pending, g.Reaches t u := by
  -- what can be reached from where a type leads can be reached from the type
  have follow {t : TypeExpr} {next rest : List TypeExpr} (visited : (g.visit t).next = next)
      (reached : ∃ s ∈ next ++ rest, g.Reaches s u) : ∃ s ∈ t :: rest, g.Reaches s u := by
    obtain ⟨s, mem, reaches⟩ := reached
    rcases List.mem_append.mp mem with mem | mem
    · rw [← visited] at mem
      exact ⟨t, List.mem_cons_self, .head (mem_next_iff.mp mem) reaches.1, reaches.2⟩
    · exact ⟨s, List.mem_cons_of_mem _ mem, reaches⟩
  fun_induction walk g scope set pending inside with
  | case1 => exact Or.inl mem
  | case2 set t rest inside _ _ next visited _ ih =>
      rcases ih mem with old | reached
      · exact Or.inl old
      · exact Or.inr (follow (by rw [visited]; rfl) reached)
  | case3 set t rest inside _ _ next visited _ _ ih =>
      rcases ih mem with old | ⟨s, mem, reaches⟩
      · exact Or.inl old
      · exact Or.inr ⟨s, List.mem_cons_of_mem _ mem, reaches⟩
  | case4 set t rest inside _ _ next visited _ _ ih =>
      rcases ih mem with old | reached
      · rcases TypeSet.mem_of_mem_insertInto old with rfl | old
        · exact Or.inr ⟨u, List.mem_cons_self, .refl, isMember_iff.mpr ⟨next, visited⟩⟩
        · exact Or.inl old
      · exact Or.inr (follow (by rw [visited]; rfl) reached)

/-!
### The walk forgets nothing
-/

/-- Whether all that can be reached from a type is going to be in the set when the pending types have been
    walked: the type is pending, it is in the set, or all that it leads to is covered. -/
inductive Covered (g : TypeGraph) (set : TypeSet) (pending : List TypeExpr) : TypeExpr → Prop where
  | pending {t : TypeExpr} : t ∈ pending → Covered g set pending t
  | taken {t : TypeExpr} : t ∈ set.members → Covered g set pending t
  | through {t : TypeExpr} :
      ¬ g.IsMember t → (∀ u, g.Visits t u → Covered g set pending u) → Covered g set pending t

/-- What holds of a set and the pending types all along a walk. -/
structure Balanced (g : TypeGraph) (set : TypeSet) (pending : List TypeExpr) : Prop where
  written : set.AllWritable
  pendingWritten : ∀ t ∈ pending, Writable t
  members : ∀ t ∈ set.members, g.IsMember t
  covered : ∀ t ∈ set.members, ∀ u, g.Visits t u → g.Covered set pending u

/-- What is covered stays so if everything that was pending or taken is covered. -/
theorem Covered.mono {set set' : TypeSet} {pending pending' : List TypeExpr} {t : TypeExpr}
    (covered : g.Covered set pending t) (pendingCovered : ∀ u ∈ pending, g.Covered set' pending' u)
    (takenCovered : ∀ u ∈ set.members, g.Covered set' pending' u) : g.Covered set' pending' t := by
  induction covered with
  | pending mem => exact pendingCovered _ mem
  | taken mem => exact takenCovered _ mem
  | through noMember _ ih => exact .through noMember ih

namespace Balanced

variable {set : TypeSet} {t : TypeExpr} {rest next : List TypeExpr}

theorem writable_next (balanced : g.Balanced set (t :: rest)) (programWritten : g.program.Written)
    (visited : (g.visit t).next = next) : ∀ u ∈ next ++ rest, Writable u := by
  intro u mem
  rcases List.mem_append.mp mem with mem | mem
  · rw [← visited] at mem
    exact (mem_next_iff.mp mem).writable programWritten (balanced.pendingWritten t List.mem_cons_self)
  · exact balanced.pendingWritten u (List.mem_cons_of_mem _ mem)

/-- Passing through a type covers whatever the type covered. -/
theorem covered_through (visited : g.visit t = .through next) {u : TypeExpr}
    (covered : g.Covered set (t :: rest) u) : g.Covered set (next ++ rest) u := by
  refine covered.mono (fun v mem => ?_) fun v mem => .taken mem
  rcases List.mem_cons.mp mem with rfl | mem
  · refine .through (fun isMember => ?_) fun w visits => .pending (List.mem_append_left _ ?_)
    · obtain ⟨other, visited'⟩ := isMember_iff.mp isMember
      rw [visited] at visited'
      cases visited'
    · have mem := mem_next_iff.mpr visits
      rwa [visited] at mem
  · exact .pending (List.mem_append_right _ mem)

/-- A type that is taken already need not be pending. -/
theorem covered_taken (taken : t ∈ set.members) {u : TypeExpr}
    (covered : g.Covered set (t :: rest) u) : g.Covered set rest u := by
  refine covered.mono (fun v mem => ?_) fun v mem => .taken mem
  rcases List.mem_cons.mp mem with rfl | mem
  · exact .taken taken
  · exact .pending mem

/-- Taking a type up covers it, before it has been followed. -/
theorem covered_insert (balanced : g.Balanced set (t :: rest)) {u : TypeExpr}
    (covered : g.Covered set (t :: rest) u) : g.Covered (set.insert t) (next ++ rest) u := by
  have writable := balanced.pendingWritten t List.mem_cons_self
  refine covered.mono (fun v mem => ?_) fun v mem => ?_
  · rcases List.mem_cons.mp mem with rfl | mem
    · exact .taken ((set.mem_insert balanced.written writable).mpr (Or.inl rfl))
    · exact .pending (List.mem_append_right _ mem)
  · exact .taken ((set.mem_insert balanced.written writable).mpr (Or.inr mem))

/-! One step of the walk keeps the balance, in each of the three ways that it can go. -/

theorem through (balanced : g.Balanced set (t :: rest)) (programWritten : g.program.Written)
    (visited : g.visit t = .through next) : g.Balanced set (next ++ rest) where
  written := balanced.written
  pendingWritten := balanced.writable_next programWritten (by rw [visited]; rfl)
  members := balanced.members
  covered s mem u visits := covered_through visited (balanced.covered s mem u visits)

theorem taken (balanced : g.Balanced set (t :: rest)) (taken : t ∈ set.members) :
    g.Balanced set rest where
  written := balanced.written
  pendingWritten u mem := balanced.pendingWritten u (List.mem_cons_of_mem _ mem)
  members := balanced.members
  covered s mem u visits := covered_taken taken (balanced.covered s mem u visits)

theorem insert (balanced : g.Balanced set (t :: rest)) (programWritten : g.program.Written)
    (visited : g.visit t = .member next) : g.Balanced (set.insert t) (next ++ rest) where
  written := by
    intro u mem
    rcases TypeSet.mem_of_mem_insertInto mem with rfl | mem
    · exact balanced.pendingWritten u List.mem_cons_self
    · exact balanced.written u mem
  pendingWritten := balanced.writable_next programWritten (by rw [visited]; rfl)
  members := by
    intro u mem
    rcases TypeSet.mem_of_mem_insertInto mem with rfl | mem
    · exact isMember_iff.mpr ⟨next, visited⟩
    · exact balanced.members u mem
  covered := by
    intro s mem u visits
    rcases TypeSet.mem_of_mem_insertInto mem with rfl | mem
    · have isNext := mem_next_iff.mpr visits
      rw [visited] at isNext
      exact .pending (List.mem_append_left _ isNext)
    · exact balanced.covered_insert (balanced.covered s mem u visits)

end Balanced

/-- At the end of a walk the set is closed under visits, and it covers whatever was covered before. -/
theorem walk_balanced {scope : g.Scope} {set : TypeSet} {pending : List TypeExpr}
    {inside : ∀ t ∈ pending, t ∈ scope.types} (programWritten : g.program.Written)
    (balanced : g.Balanced set pending) :
    g.Balanced (g.walk scope set pending inside) [] ∧
      ∀ t, g.Covered set pending t → g.Covered (g.walk scope set pending inside) [] t := by
  fun_induction walk g scope set pending inside with
  | case1 => exact ⟨balanced, fun t covered => covered⟩
  | case2 set t rest inside _ _ next visited _ ih =>
      obtain ⟨closed, covers⟩ := ih (balanced.through programWritten visited)
      exact ⟨closed, fun u covered => covers u (Balanced.covered_through visited covered)⟩
  | case3 set t rest inside _ _ next visited found _ ih =>
      have writable := balanced.pendingWritten t List.mem_cons_self
      have taken := (set.contains_iff balanced.written writable).mp found
      obtain ⟨closed, covers⟩ := ih (balanced.taken taken)
      exact ⟨closed, fun u covered => covers u (Balanced.covered_taken taken covered)⟩
  | case4 set t rest inside _ _ next visited _ _ ih =>
      obtain ⟨closed, covers⟩ := ih (balanced.insert programWritten visited)
      exact ⟨closed, fun u covered => covers u (balanced.covered_insert covered)⟩

/-- When nothing is pending, all that can be reached from a covered type is in the set. -/
theorem Balanced.mem_of_reaches {set : TypeSet} {t u : TypeExpr} (balanced : g.Balanced set [])
    (covered : g.Covered set [] t) (reaches : g.Reaches t u) : u ∈ set.members := by
  obtain ⟨visits, isMember⟩ := reaches
  -- with nothing pending, a covered type leads to covered types only, so the last one is covered too
  have endCovered : g.Covered set [] u := by
    clear isMember
    induction visits with
    | refl => exact covered
    | tail _ visit ih =>
        cases ih with
        | pending mem => cases mem
        | taken mem => exact balanced.covered _ mem _ visit
        | through _ each => exact each _ visit
  cases endCovered with
  | pending mem => cases mem
  | taken mem => exact mem
  | through noMember _ => exact absurd isMember noMember

/-- A walk from a balanced set adds exactly the members that can be reached from the pending types. -/
theorem mem_walk_iff {scope : g.Scope} {set : TypeSet} {pending : List TypeExpr}
    {inside : ∀ t ∈ pending, t ∈ scope.types} {u : TypeExpr} (programWritten : g.program.Written)
    (balanced : g.Balanced set pending) :
    u ∈ (g.walk scope set pending inside).members ↔
      u ∈ set.members ∨ ∃ t ∈ pending, g.Reaches t u := by
  refine ⟨walk_sound, ?_⟩
  obtain ⟨closed, covers⟩ := walk_balanced programWritten balanced
  rintro (old | ⟨t, mem, reaches⟩)
  · exact closed.mem_of_reaches (covers u (.taken old)) ⟨.refl, balanced.members u old⟩
  · exact closed.mem_of_reaches (covers t (.pending mem)) reaches

end RouteScribe.TypeGraph
