/-
Module: RouteScribe.Proofs.Reachability.FiniteWalks
Layer: Proofs
Purpose: Every walk comes to an end, on every program and from every set. The walk is taken apart into single steps
  on a stack of tasks, which also go up a base chain one type at a time. No run of these steps goes on for ever:
  a type is taken up only once, all types that are met are among the parts of the type at the start and of the
  types of fields, and a base chain is followed only to types that it has not met. The run stops at the set that
  the expansion gives, which has no other new types than such parts.
Imports: RouteScribe.Proofs.Reachability.RouteMembers
Trusted boundary: human-reviewed spec
Main exports: Task, Agenda, TypeGraph.step, TypeGraph.Ends, TypeGraph.StepCase, TypeGraph.exists_stepCase,
  TypeGraph.fits_step, TypeGraph.step_lt, TypeGraph.acc_step, TypeGraph.run_step, TypeGraph.members_expand,
  TypeGraph.expand_ends
Open obligations: none
-/
import RouteScribe.Proofs.Reachability.RouteMembers

namespace RouteScribe

open Relation (ReflTransGen)

/-!
### The specification
-/

/-- One thing that is left to do in a walk. -/
inductive Task where
  /-- Visit a type. -/
  | visit (t : TypeExpr)
  /-- Visit the types of the fields of `d`, and then those of its base type if they count, unless the path of `d`
      has been visited on the way up to it. -/
  | fields (visited : List String) (d : Declaration)
deriving Repr

/-- How far a walk has come: the types that it has taken up, and what is left to do, the next thing first. -/
structure Agenda where
  set : TypeSet
  tasks : List Task
deriving Repr

namespace TypeGraph

/-- The types of the serialized fields of a declared type itself. -/
def ownTypes (g : TypeGraph) (d : Declaration) : List TypeExpr :=
  (d.fields.filter g.isSerialized).map (·.type)

/-- What is to be done after the fields of a type itself. -/
def baseTasks (g : TypeGraph) (visited : List String) (d : Declaration) : List Task :=
  if g.withInherited then
    match d.basePath?.bind g.program.resolve with
    | some base => [.fields (d.path :: visited) base]
    | none => []
  else []

/-- Do the next thing, if there is any. -/
def step (g : TypeGraph) : Agenda → Option Agenda
  | ⟨_, []⟩ => none
  | ⟨set, .visit (.array element) :: rest⟩ => some ⟨set, .visit element :: rest⟩
  | ⟨set, .visit (.optional inner) :: rest⟩ => some ⟨set, .visit inner :: rest⟩
  | ⟨set, .visit (.param _) :: rest⟩ => some ⟨set, rest⟩
  | ⟨set, .visit .unresolved :: rest⟩ => some ⟨set, rest⟩
  | ⟨set, .visit (.named path args) :: rest⟩ =>
    if (TypeExpr.named path args).isPrimitive || g.conventions.isFrameworkType path then some ⟨set, rest⟩
    else
      match g.program.resolve path with
      | none => some ⟨set, args.map .visit ++ rest⟩
      | some d =>
        if !d.isShape then some ⟨set, rest⟩
        else if set.contains (.named path args) then some ⟨set, rest⟩
        else some ⟨set.insert (.named path args), args.map .visit ++ .fields [] d :: rest⟩
  | ⟨set, .fields visited d :: rest⟩ =>
    if visited.contains d.path then some ⟨set, rest⟩
    else some ⟨set, (g.ownTypes d).map .visit ++ (g.baseTasks visited d ++ rest)⟩

/-- `g.Ends set t` says that the walk from `t` ends, whatever is in the set at its start, and what is in it then. -/
structure Ends (g : TypeGraph) (set : TypeSet) (t : TypeExpr) : Prop where
  /-- The walk does not go on for ever, -/
  finite : Acc (fun after before => g.step before = some after) ⟨set, [.visit t]⟩
  /-- it leaves nothing to do, and the set is then the one that the expansion gives. -/
  stops : ReflTransGen (fun before after => g.step before = some after) ⟨set, [.visit t]⟩ ⟨g.expand set t, []⟩
  /-- Nothing is taken out of the set, -/
  kept : ∀ u ∈ set.members, u ∈ (g.expand set t).members
  /-- and a type that is new in it is a part of the type at the start or of the type of a declared field. -/
  added : ∀ u ∈ (g.expand set t).members, u ∈ set.members ∨ u ∈ t.parts ∨
    ∃ d ∈ g.program.declarations, ∃ f ∈ d.fields, u ∈ f.type.parts

/-!
### Single steps
-/

variable {g : TypeGraph} {set : TypeSet} {t : TypeExpr} {rest : List Task} {visited : List String}
  {d : Declaration}

/-- What a step can be: what is done with a type depends on where the type leads. -/
inductive StepCase (g : TypeGraph) : Agenda → Agenda → Prop where
  | through {set : TypeSet} {t : TypeExpr} (next : List TypeExpr) {rest : List Task} :
      g.visit t = .through next → StepCase g ⟨set, .visit t :: rest⟩ ⟨set, next.map .visit ++ rest⟩
  | known {set : TypeSet} {t : TypeExpr} {next : List TypeExpr} {rest : List Task} :
      g.visit t = .member next → set.contains t = true → StepCase g ⟨set, .visit t :: rest⟩ ⟨set, rest⟩
  | member {set : TypeSet} {path : String} {args : List TypeExpr} {d : Declaration} {rest : List Task} :
      g.program.resolve path = some d → g.visit (.named path args) = .member (args ++ g.fieldTypes d) →
        set.contains (.named path args) = false →
          StepCase g ⟨set, .visit (.named path args) :: rest⟩
            ⟨set.insert (.named path args), args.map .visit ++ .fields [] d :: rest⟩
  | old {set : TypeSet} {visited : List String} {d : Declaration} {rest : List Task} :
      d.path ∈ visited → StepCase g ⟨set, .fields visited d :: rest⟩ ⟨set, rest⟩
  | new {set : TypeSet} {visited : List String} {d : Declaration} {rest : List Task} :
      d.path ∉ visited → StepCase g ⟨set, .fields visited d :: rest⟩
        ⟨set, (g.ownTypes d).map .visit ++ (g.baseTasks visited d ++ rest)⟩

theorem exists_stepCase_visit (g : TypeGraph) (set : TypeSet) (t : TypeExpr) (rest : List Task) :
    ∃ a', g.step ⟨set, .visit t :: rest⟩ = some a' ∧ g.StepCase ⟨set, .visit t :: rest⟩ a' := by
  cases t with
  | array element => exact ⟨_, rfl, .through [element] rfl⟩
  | optional inner => exact ⟨_, rfl, .through [inner] rfl⟩
  | param name => exact ⟨_, rfl, .through [] rfl⟩
  | unresolved => exact ⟨_, rfl, .through [] rfl⟩
  | named path args =>
      rw [step]
      by_cases given : ((TypeExpr.named path args).isPrimitive || g.conventions.isFrameworkType path) = true
      · rw [if_pos given]
        exact ⟨_, rfl, .through [] (if_pos given)⟩
      rw [if_neg given]
      cases found : g.program.resolve path with
      | none =>
          refine ⟨_, rfl, .through args ?_⟩
          rw [visit, visitNamed, if_neg given, found]
      | some d =>
          have visited : g.visit (.named path args) =
              if d.isShape then .member (args ++ g.fieldTypes d) else .through [] := by
            rw [visit, visitNamed, if_neg given, found]
          cases shape : d.isShape with
          | false =>
              refine ⟨⟨set, rest⟩, by simp [shape], .through [] ?_⟩
              simpa [shape] using visited
          | true =>
              rw [shape, if_pos rfl] at visited
              cases known : set.contains (.named path args) with
              | true => exact ⟨⟨set, rest⟩, by simp [shape], .known visited known⟩
              | false => exact ⟨_, by simp [shape], .member found visited known⟩

/-- As long as anything is left to do, there is a step. -/
theorem exists_stepCase {a : Agenda} (left : a.tasks ≠ []) : ∃ a', g.step a = some a' ∧ g.StepCase a a' := by
  obtain ⟨set, tasks⟩ := a
  cases tasks with
  | nil => exact absurd rfl left
  | cons task rest =>
      cases task with
      | visit t => exact g.exists_stepCase_visit set t rest
      | fields visited d =>
          by_cases old : d.path ∈ visited
          · exact ⟨_, by simp [step, old], .old old⟩
          · exact ⟨_, by simp [step, old], .new old⟩

theorem stepCase_of_step {a a' : Agenda} (next : g.step a = some a') : g.StepCase a a' := by
  have left : a.tasks ≠ [] := by
    intro done
    obtain ⟨set, tasks⟩ := a
    subst done
    cases next
  obtain ⟨a'', next', stepCase⟩ := exists_stepCase left
  cases next.symm.trans next'
  exact stepCase

theorem mem_baseTasks {task : Task} (mem : task ∈ g.baseTasks visited d) :
    ∃ base, d.basePath?.bind g.program.resolve = some base ∧ task = .fields (d.path :: visited) base := by
  rw [baseTasks] at mem
  split at mem
  · split at mem
    · rename_i base isBase
      exact ⟨base, isBase, List.mem_singleton.mp mem⟩
    · cases mem
  · cases mem

/-!
### Tasks that fit a walk

The types that are left to visit are among those that the walk can meet, and each type whose fields are left to visit
is the one that its path leads to.
-/

/-- Whether a task can come up in a walk from the given types. -/
def Fits (g : TypeGraph) (starts : List TypeExpr) : Task → Prop
  | .visit t => t ∈ (g.scopeOf starts).types
  | .fields _ d => g.program.resolve d.path = some d

variable {starts : List TypeExpr} {a a' : Agenda}

theorem fits_ownTypes (isType : d ∈ g.program.types) :
    ∀ task ∈ (g.ownTypes d).map Task.visit, g.Fits starts task := by
  intro task mem
  obtain ⟨t, isOwn, rfl⟩ := List.mem_map.mp mem
  obtain ⟨f, isField, rfl⟩ := List.mem_map.mp isOwn
  refine TypeExpr.mem_partsOf (List.mem_append_right _ ?_) f.type.self_mem_parts
  exact List.mem_flatMap.mpr ⟨d, isType, List.mem_map_of_mem (List.mem_filter.mp isField).1⟩

theorem fits_baseTasks : ∀ task ∈ g.baseTasks visited d, g.Fits starts task := by
  intro task mem
  obtain ⟨base, isBase, rfl⟩ := mem_baseTasks mem
  obtain ⟨path, -, found⟩ := Option.bind_eq_some_iff.mp isBase
  exact Program.resolve_path found

theorem fits_next {next : List TypeExpr} (fits : g.Fits starts (.visit t))
    (leads : ∀ u ∈ next, u ∈ (g.visit t).next) : ∀ task ∈ next.map Task.visit, g.Fits starts task := by
  intro task mem
  obtain ⟨u, isNext, rfl⟩ := List.mem_map.mp mem
  exact (g.scopeOf starts).closed t fits u (leads u isNext)

/-- A step leaves only tasks that fit. -/
theorem fits_step (fits : ∀ task ∈ a.tasks, g.Fits starts task) (stepCase : g.StepCase a a') :
    ∀ task ∈ a'.tasks, g.Fits starts task := by
  cases stepCase with
  | through next visited =>
      obtain ⟨first, others⟩ := List.forall_mem_cons.mp fits
      apply List.forall_mem_append.mpr ⟨fits_next first _, others⟩
      simp [visited, Visit.next]
  | known _ _ => exact fun task mem => fits task (List.mem_cons_of_mem _ mem)
  | member found visited _ =>
      obtain ⟨first, others⟩ := List.forall_mem_cons.mp fits
      apply List.forall_mem_append.mpr ⟨fits_next first _, _⟩
      · intro u mem
        rw [visited]
        exact List.mem_append_left _ mem
      · exact List.forall_mem_cons.mpr ⟨Program.resolve_path found, others⟩
  | old _ => exact fun task mem => fits task (List.mem_cons_of_mem _ mem)
  | new _ =>
      obtain ⟨first, others⟩ := List.forall_mem_cons.mp fits
      apply List.forall_mem_append.mpr ⟨fits_ownTypes (Program.resolve_some first).1, _⟩
      exact List.forall_mem_append.mpr ⟨fits_baseTasks, others⟩

/-!
### The walk goes down
-/

/-- The weight of the types of all fields. -/
def fieldWeight (g : TypeGraph) : Nat :=
  TypeExpr.weight (g.program.types.flatMap fun d => d.fields.map (·.type))

/-- A bound on the number of steps for a task that do not take up a type. On the way up a base chain every type on
    it counts with the types of all fields. -/
def taskWeight (g : TypeGraph) : Task → Nat
  | .visit t => t.parts.length
  | .fields visited _ => (g.fieldWeight + 1) * (g.program.unvisited visited + 1)

/-- The weight of a list of tasks. -/
def tasksWeight (g : TypeGraph) (tasks : List Task) : Nat := (tasks.map g.taskWeight).sum

theorem tasksWeight_append (tasks tasks' : List Task) :
    g.tasksWeight (tasks ++ tasks') = g.tasksWeight tasks + g.tasksWeight tasks' := by
  simp [tasksWeight]

theorem tasksWeight_cons (task : Task) : g.tasksWeight (task :: rest) = g.taskWeight task + g.tasksWeight rest := by
  simp [tasksWeight]

theorem tasksWeight_visits (ts : List TypeExpr) : g.tasksWeight (ts.map .visit) = TypeExpr.weight ts := by
  induction ts with
  | nil => rfl
  | cons t ts ih => rw [List.map_cons, tasksWeight_cons, ih, taskWeight, TypeExpr.weight_cons]

theorem weight_le_of_sublist {ts us : List TypeExpr} (sublist : ts.Sublist us) :
    TypeExpr.weight ts ≤ TypeExpr.weight us := by
  induction sublist with
  | slnil => exact Nat.le_refl _
  | cons u _ ih => rw [TypeExpr.weight_cons]; omega
  | cons_cons u _ ih => rw [TypeExpr.weight_cons, TypeExpr.weight_cons]; omega

theorem weight_ownTypes_le (isType : d ∈ g.program.types) : TypeExpr.weight (g.ownTypes d) ≤ g.fieldWeight := by
  apply weight_le_of_sublist
  have own : (g.ownTypes d).Sublist (d.fields.map (·.type)) := List.filter_sublist.map _
  refine own.trans ?_
  rw [List.flatMap_def]
  exact List.sublist_flatten_of_mem (List.mem_map_of_mem isType)

/-- Going up to a base type leaves fewer types that the chain has not met. -/
theorem weight_fields_lt (isType : d ∈ g.program.types) (new : d.path ∉ visited) :
    TypeExpr.weight (g.ownTypes d) + g.tasksWeight (g.baseTasks visited d) <
      g.taskWeight (.fields visited d) := by
  have own := weight_ownTypes_le isType
  have fewer : g.program.unvisited (d.path :: visited) + 1 ≤ g.program.unvisited visited :=
    Program.unvisited_cons_lt isType (by simpa using new)
  have base : g.tasksWeight (g.baseTasks visited d) ≤ (g.fieldWeight + 1) * g.program.unvisited visited := by
    rw [baseTasks]
    split
    · split
      · rw [tasksWeight_cons]
        exact Nat.mul_le_mul_left _ fewer
      · exact Nat.zero_le _
    · exact Nat.zero_le _
  rw [taskWeight, Nat.mul_succ]
  omega

/-- A step takes up a type of the scope, or what is left to do becomes less. -/
theorem step_lt (fits : ∀ task ∈ a.tasks, g.Fits starts task) (stepCase : g.StepCase a a') :
    (g.scopeOf starts).missing a'.set < (g.scopeOf starts).missing a.set ∨
      a'.set = a.set ∧ g.tasksWeight a'.tasks < g.tasksWeight a.tasks := by
  cases stepCase with
  | through next visited =>
      have less := weight_through visited
      refine .inr ⟨rfl, ?_⟩
      rw [tasksWeight_append, tasksWeight_visits, tasksWeight_cons, taskWeight]
      omega
  | @known _ t _ _ _ _ =>
      refine .inr ⟨rfl, ?_⟩
      rw [tasksWeight_cons, taskWeight]
      exact Nat.lt_add_of_pos_left t.parts_length_pos
  | member _ _ new => exact .inl (Scope.missing_insert_lt (fits _ List.mem_cons_self) new)
  | old _ =>
      refine .inr ⟨rfl, ?_⟩
      rw [tasksWeight_cons, taskWeight]
      exact Nat.lt_add_of_pos_left (Nat.mul_pos (Nat.succ_pos _) (Nat.succ_pos _))
  | new new =>
      have declared := fits _ List.mem_cons_self
      have less := weight_fields_lt (Program.resolve_some declared).1 new
      refine .inr ⟨rfl, ?_⟩
      rw [tasksWeight_append, tasksWeight_append, tasksWeight_visits, tasksWeight_cons]
      omega

/-- No run of steps goes on for ever. -/
theorem acc_step {a : Agenda} (fits : ∀ task ∈ a.tasks, g.Fits starts task) :
    Acc (fun after before => g.step before = some after) a :=
  ⟨a, fun _ next => acc_step (fits_step fits (stepCase_of_step next))⟩
termination_by ((g.scopeOf starts).missing a.set, g.tasksWeight a.tasks)
decreasing_by
  rcases step_lt fits (stepCase_of_step next) with fewer | ⟨same, less⟩
  · exact Prod.Lex.left _ _ fewer
  · rw [same]
    exact Prod.Lex.right _ less

/-!
### The walk of the expansion

At every step the expansion of what is left to visit gives the same set.
-/

/-- The types on the base chain of `d` whose fields are left to visit. -/
def sourcesFrom (g : TypeGraph) (visited : List String) (d : Declaration) : List Declaration :=
  if g.withInherited then g.program.chainFrom visited d.path
  else if visited.contains d.path then [] else [d]

/-- The types that a task leaves to visit. -/
def pending (g : TypeGraph) : Task → List TypeExpr
  | .visit t => [t]
  | .fields visited d => (g.sourcesFrom visited d).flatMap g.ownTypes

theorem pending_visits (ts : List TypeExpr) : (ts.map Task.visit).flatMap g.pending = ts := by
  induction ts with
  | nil => rfl
  | cons t ts ih => rw [List.map_cons, List.flatMap_cons, ih, pending, List.singleton_append]

theorem sourcesFrom_old (declared : g.program.resolve d.path = some d) (old : d.path ∈ visited) :
    g.sourcesFrom visited d = [] := by
  rw [sourcesFrom]
  split
  · exact Program.chainFrom_old declared old
  · exact if_pos (by simpa using old)

/-- The fields of a type are visited before those of its base type. -/
theorem pending_fields_new (declared : g.program.resolve d.path = some d) (new : d.path ∉ visited) :
    g.pending (.fields visited d) = g.ownTypes d ++ (g.baseTasks visited d).flatMap g.pending := by
  rw [pending, sourcesFrom, baseTasks]
  cases inherited : g.withInherited with
  | false => simp [new]
  | true =>
      rw [if_pos rfl, if_pos rfl, Program.chainFrom_new declared new, List.flatMap_cons]
      congr 1
      cases isBase : d.basePath? with
      | none => rfl
      | some path =>
          cases found : g.program.resolve path with
          | none => simp [found, Program.chainFrom_undeclared found]
          | some base => simp [found, pending, sourcesFrom, inherited, (Program.resolve_some found).2]

theorem mem_types_of_mem_sourcesFrom {source : Declaration} (declared : g.program.resolve d.path = some d)
    (isSource : source ∈ g.sourcesFrom visited d) : source ∈ g.program.types := by
  rw [sourcesFrom] at isSource
  split at isSource
  · exact Program.mem_types_of_mem_chainFrom isSource
  · split at isSource
    · cases isSource
    · rw [List.mem_singleton.mp isSource]
      exact (Program.resolve_some declared).1

/-- What the tasks leave to visit is among what the walk can meet. -/
theorem pending_inside (fits : ∀ task ∈ a.tasks, g.Fits starts task) :
    ∀ t ∈ a.tasks.flatMap g.pending, t ∈ (g.scopeOf starts).types := by
  intro t mem
  obtain ⟨task, isTask, isPending⟩ := List.mem_flatMap.mp mem
  have fit := fits task isTask
  cases task with
  | visit u =>
      rw [List.mem_singleton.mp isPending]
      exact fit
  | fields visited d =>
      obtain ⟨source, isSource, isOwn⟩ := List.mem_flatMap.mp isPending
      exact fits_ownTypes (mem_types_of_mem_sourcesFrom fit isSource) _ (List.mem_map_of_mem isOwn)

theorem pending_fields_old (declared : g.program.resolve d.path = some d) (old : d.path ∈ visited) :
    g.pending (.fields visited d) = [] := by
  rw [pending, sourcesFrom_old declared old, List.flatMap_nil]

theorem pending_fields_nil (d : Declaration) : g.pending (.fields [] d) = g.fieldTypes d := rfl

theorem walk_done {scope : g.Scope} {inside : ∀ t ∈ [], t ∈ scope.types} : g.walk scope set [] inside = set := by
  rw [walk]

section

variable {scope : g.Scope} {next ts ts' : List TypeExpr} (inside : ∀ u ∈ t :: ts, u ∈ scope.types)
  (inside' : ∀ u ∈ ts', u ∈ scope.types)

theorem walk_through (visited : g.visit t = .through next) (same : next ++ ts = ts') :
    g.walk scope set (t :: ts) inside = g.walk scope set ts' inside' := by
  subst same
  rw [walk]
  split
  · rename_i visited'
    cases visited.symm.trans visited'
    rfl
  · rename_i visited'
    cases visited.symm.trans visited'

theorem walk_known (visited : g.visit t = .member next) (known : set.contains t = true) (same : ts = ts') :
    g.walk scope set (t :: ts) inside = g.walk scope set ts' inside' := by
  subst same
  rw [walk]
  split
  · rename_i visited'
    cases visited.symm.trans visited'
  · exact if_pos known

theorem walk_member (visited : g.visit t = .member next) (new : set.contains t = false)
    (same : next ++ ts = ts') :
    g.walk scope set (t :: ts) inside = g.walk scope (set.insert t) ts' inside' := by
  subst same
  rw [walk]
  split
  · rename_i visited'
    cases visited.symm.trans visited'
  · rename_i visited'
    cases visited.symm.trans visited'
    rw [if_neg (by simp [new])]

theorem walk_congr {inside : ∀ u ∈ ts, u ∈ scope.types} (same : ts = ts') :
    g.walk scope set ts inside = g.walk scope set ts' inside' := by
  subst same
  rfl

end

/-- The set that the tasks lead to. -/
def finish (g : TypeGraph) (starts : List TypeExpr) (a : Agenda)
    (fits : ∀ task ∈ a.tasks, g.Fits starts task) : TypeSet :=
  g.walk (g.scopeOf starts) a.set (a.tasks.flatMap g.pending) (pending_inside fits)

/-- No step changes the set that the tasks lead to. -/
theorem finish_step (fits : ∀ task ∈ a.tasks, g.Fits starts task) (fits' : ∀ task ∈ a'.tasks, g.Fits starts task)
    (stepCase : g.StepCase a a') : g.finish starts a fits = g.finish starts a' fits' := by
  cases stepCase with
  | through next visited =>
      apply walk_through _ _ visited
      rw [List.flatMap_append, pending_visits]
      rfl
  | known visited known => exact walk_known _ _ visited known rfl
  | member found visited new =>
      apply walk_member _ _ visited new
      rw [List.flatMap_append, pending_visits, List.flatMap_cons, pending_fields_nil, List.append_assoc]
      rfl
  | old old =>
      apply walk_congr
      rw [List.flatMap_cons, pending_fields_old (fits _ List.mem_cons_self) old, List.nil_append]
  | new new =>
      apply walk_congr
      rw [List.flatMap_cons, pending_fields_new (fits _ List.mem_cons_self) new, List.flatMap_append, pending_visits,
        List.flatMap_append, List.append_assoc]

/-- A run of steps stops at the set that the tasks lead to. -/
theorem run_step {a : Agenda} (fits : ∀ task ∈ a.tasks, g.Fits starts task) :
    ReflTransGen (fun before after => g.step before = some after) a ⟨g.finish starts a fits, []⟩ := by
  induction acc_step fits with
  | intro a _ ih =>
      by_cases done : a.tasks = []
      · have same : a = ⟨g.finish starts a fits, []⟩ := by
          obtain ⟨set, tasks⟩ := a
          subst done
          exact congrArg (Agenda.mk · []) walk_done.symm
        exact same ▸ .refl
      · obtain ⟨a', next, stepCase⟩ := exists_stepCase done
        have fits' := fits_step fits stepCase
        rw [finish_step fits fits' stepCase]
        exact .head next (ih a' next fits')

/-- The agenda after a number of steps, or after fewer of them if nothing is left to do by then. -/
def advance (g : TypeGraph) : Nat → Agenda → Agenda
  | 0, a => a
  | n + 1, a =>
    match g.step a with
    | none => a
    | some next => g.advance n next

/-- Steps that leave nothing to do have come to the set that the tasks lead to. -/
theorem set_advance {a : Agenda} {n : Nat} (fits : ∀ task ∈ a.tasks, g.Fits starts task)
    (done : (g.advance n a).tasks = []) : (g.advance n a).set = g.finish starts a fits := by
  have finish_of_done {a : Agenda} (fits : ∀ task ∈ a.tasks, g.Fits starts task) (done : a.tasks = []) :
      a.set = g.finish starts a fits := by
    obtain ⟨set, tasks⟩ := a
    subst done
    exact walk_done.symm
  induction n generalizing a with
  | zero => exact finish_of_done fits done
  | succ n ih =>
      rw [advance] at done ⊢
      split at done
      · exact finish_of_done fits done
      · rename_i next isNext
        have stepCase := stepCase_of_step isNext
        rw [finish_step fits (fits_step fits stepCase) stepCase]
        exact ih (fits_step fits stepCase) done

/-- An expansion can be computed by steps that leave nothing to do. -/
theorem members_expand {n : Nat} {members : List TypeExpr}
    (run : (g.advance n ⟨set, [.visit t]⟩).tasks.isEmpty = true ∧
      (g.advance n ⟨set, [.visit t]⟩).set.members = members) : (g.expand set t).members = members := by
  have fits : ∀ task ∈ [Task.visit t], g.Fits [t] task :=
    List.forall_mem_singleton.mpr (mem_scopeOf List.mem_cons_self)
  rw [← run.2, set_advance fits (List.isEmpty_iff.mp run.1)]
  rfl

/-!
### What a walk adds
-/

/-- A walk takes nothing out of the set. -/
theorem kept_walk {scope : g.Scope} {set : TypeSet} {pending : List TypeExpr}
    {inside : ∀ t ∈ pending, t ∈ scope.types} {u : TypeExpr} (mem : u ∈ set.members) :
    u ∈ (g.walk scope set pending inside).members := by
  fun_induction walk g scope set pending inside with
  | case1 => exact mem
  | case2 _ _ _ _ _ _ _ _ _ ih => exact ih mem
  | case3 _ _ _ _ _ _ _ _ _ _ ih => exact ih mem
  | case4 _ _ _ _ _ _ _ _ _ _ ih => exact ih (TypeSet.mem_insertInto_of_mem mem)

/-- The fields of a member are fields of declarations. -/
theorem HasField.declared {f : Field} (isField : g.HasField t f) :
    ∃ d ∈ g.program.declarations, f ∈ d.fields := by
  obtain ⟨path, args, d, source, -, shape, contributes, mem, -⟩ := isField
  have isType := contributes.mem_types (Program.resolve_some shape.declared).1
  rw [(g.program.merges.unites source isType).fields] at mem
  obtain ⟨part, isPart, mem⟩ := List.mem_flatMap.mp mem
  exact ⟨part, (List.mem_filter.mp isPart).1, mem⟩

/-- From every type and with every set, the walk ends, and the types that it adds are parts of that type and of the
    types of declared fields. -/
theorem expand_ends (g : TypeGraph) (set : TypeSet) (t : TypeExpr) : g.Ends set t := by
  have fits : ∀ task ∈ [Task.visit t], g.Fits [t] task :=
    List.forall_mem_singleton.mpr (mem_scopeOf List.mem_cons_self)
  refine ⟨acc_step fits, run_step fits, fun u mem => kept_walk mem, fun u mem => ?_⟩
  rcases walk_sound mem with old | ⟨s, isStart, visits, -⟩
  · exact .inl old
  · rw [List.mem_singleton.mp isStart] at visits
    rcases Visits.origin visits with part | ⟨s, f, -, isField, part⟩
    · exact .inr (.inl part)
    · obtain ⟨d, isDeclared, mem⟩ := isField.declared
      exact .inr (.inr ⟨d, isDeclared, f, mem, part⟩)

end TypeGraph

end RouteScribe
