/-
Module: RouteScribe.Proofs.Reachability.Visits
Layer: Proofs
Purpose: Where types lead, as a relation stated apart from the walk: which types are members of the closure,
  and which types are visited from a type. What can be reached from a type are the members at the ends of
  its visits.
Imports: RouteScribe.Proofs.Dump.WrittenTypes, RouteScribe.Proofs.Reachability.BaseChain,
  RouteScribe.TypeGraph
Trusted boundary: human-reviewed spec
Main exports: TypeGraph.Shape, TypeGraph.IsMember, TypeGraph.Visits, TypeGraph.Reaches,
  TypeGraph.mem_next_iff, TypeGraph.isMember_iff, TypeGraph.Visits.writable
Open obligations: none
-/
import RouteScribe.Proofs.Dump.WrittenTypes
import RouteScribe.Proofs.Reachability.BaseChain
import RouteScribe.TypeGraph

namespace RouteScribe.TypeGraph

open Relation (ReflTransGen)
open TypeExpr (Writable)

/-!
### The specification
-/

/-- Whether a named type is a built-in scalar or supplied by the serving layer. -/
def IsGiven (g : TypeGraph) (path : String) (args : List TypeExpr) : Prop :=
  (TypeExpr.named path args).isPrimitive = true ∨ g.conventions.isFrameworkType path = true

/-- Whether a named type is the declared type `d`, the values of which are serialized. -/
structure Shape (g : TypeGraph) (path : String) (args : List TypeExpr) (d : Declaration) : Prop where
  notGiven : ¬ g.IsGiven path args
  declared : g.program.resolve path = some d
  kind : d.kind = .record ∨ d.kind = .enumeration
  concrete : d.isAbstract = false

/-- Whether a type can be in the closure. -/
def IsMember (g : TypeGraph) (t : TypeExpr) : Prop := ∃ path args d, t = .named path args ∧ g.Shape path args d

/-- Whether the fields of `source` belong to the serialized form of `d`: those of the type itself, and
    those of the types on its base chain if they count. -/
def Contributes (g : TypeGraph) (d source : Declaration) : Prop :=
  source = d ∨ g.withInherited = true ∧ ReflTransGen g.program.BaseStep d source

/-- Whether a field is part of the serialized form. -/
structure Serialized (g : TypeGraph) (f : Field) : Prop where
  isPublic : f.isPublic = true
  isReadable : f.isReadable = true
  notIgnored : ∀ a ∈ f.attributes, a.name ≠ g.conventions.ignoreMarker

/-- `Visits g t u` says that the type `t` leads directly to `u`. -/
inductive Visits (g : TypeGraph) : TypeExpr → TypeExpr → Prop where
  | element {t : TypeExpr} : Visits g (.array t) t
  | inner {t : TypeExpr} : Visits g (.optional t) t
  | undeclared {path : String} {args : List TypeExpr} {arg : TypeExpr} :
      ¬ g.IsGiven path args → g.program.resolve path = none → arg ∈ args → Visits g (.named path args) arg
  | argument {path : String} {args : List TypeExpr} {d : Declaration} {arg : TypeExpr} :
      g.Shape path args d → arg ∈ args → Visits g (.named path args) arg
  | field {path : String} {args : List TypeExpr} {d source : Declaration} {f : Field} :
      g.Shape path args d → g.Contributes d source → f ∈ source.fields → g.Serialized f →
        Visits g (.named path args) f.type

/-- `Reaches g t u` says that `u` is a member that the type `t` leads to, in any number of visits. -/
def Reaches (g : TypeGraph) (t u : TypeExpr) : Prop := ReflTransGen g.Visits t u ∧ g.IsMember u

/-!
### Agreement with the visits of the walk
-/

variable {g : TypeGraph}

theorem isShape_iff {d : Declaration} :
    d.isShape = true ↔ (d.kind = .record ∨ d.kind = .enumeration) ∧ d.isAbstract = false := by
  obtain ⟨path, kind, isAbstract, generics, base, attributes, fields, methods⟩ := d
  cases kind <;> simp [Declaration.isShape]

theorem isSerialized_iff {f : Field} : g.isSerialized f = true ↔ g.Serialized f := by
  simp only [isSerialized, hasAttribute, Bool.and_eq_true, Bool.not_eq_true', List.any_eq_false]
  constructor
  · rintro ⟨⟨isPublic, isReadable⟩, notIgnored⟩
    exact ⟨isPublic, isReadable, fun a mem => by simpa using notIgnored a mem⟩
  · rintro ⟨isPublic, isReadable, notIgnored⟩
    exact ⟨⟨isPublic, isReadable⟩, fun a mem => by simpa using notIgnored a mem⟩

theorem mem_fieldSources {path : String} {d source : Declaration}
    (found : g.program.resolve path = some d) : source ∈ g.fieldSources d ↔ g.Contributes d source := by
  rw [fieldSources, Contributes]
  by_cases inherited : g.withInherited = true
  · rw [if_pos inherited, Program.mem_baseChain, Program.resolve_path found]
    constructor
    · rintro ⟨e, isD, steps⟩
      cases isD
      exact Or.inr ⟨inherited, steps⟩
    · rintro (rfl | ⟨-, steps⟩)
      · exact ⟨source, rfl, .refl⟩
      · exact ⟨d, rfl, steps⟩
  · simp [inherited]

theorem mem_fieldTypes {path : String} {d : Declaration} {u : TypeExpr}
    (found : g.program.resolve path = some d) :
    u ∈ g.fieldTypes d ↔
      ∃ source f, g.Contributes d source ∧ f ∈ source.fields ∧ g.Serialized f ∧ f.type = u := by
  simp only [fieldTypes, List.mem_flatMap, List.mem_map, List.mem_filter, mem_fieldSources found,
    isSerialized_iff]
  constructor
  · rintro ⟨source, contributes, f, ⟨mem, serialized⟩, rfl⟩
    exact ⟨source, f, contributes, mem, serialized, rfl⟩
  · rintro ⟨source, f, contributes, mem, serialized, rfl⟩
    exact ⟨source, contributes, f, ⟨mem, serialized⟩, rfl⟩

theorem Shape.unique {path : String} {args : List TypeExpr} {d e : Declaration} (shape : g.Shape path args d)
    (shape' : g.Shape path args e) : d = e :=
  Option.some.inj (shape.declared.symm.trans shape'.declared)

/-- What the walk does at a named type: it passes through an undeclared one, follows a shape, and stops at
    all others. -/
theorem visitNamed_cases (g : TypeGraph) (path : String) (args : List TypeExpr) :
    (¬ g.IsGiven path args ∧ g.program.resolve path = none ∧ (∀ d, ¬ g.Shape path args d) ∧
        g.visitNamed path args = .through args) ∨
      (∃ d, g.Shape path args d ∧ g.visitNamed path args = .member (args ++ g.fieldTypes d)) ∨
      ((g.IsGiven path args ∨ g.program.resolve path ≠ none) ∧ (∀ d, ¬ g.Shape path args d) ∧
        g.visitNamed path args = .through []) := by
  have given : ((TypeExpr.named path args).isPrimitive || g.conventions.isFrameworkType path) = true ↔
      g.IsGiven path args := by rw [Bool.or_eq_true, IsGiven]
  rw [visitNamed]
  by_cases isGiven : g.IsGiven path args
  · rw [if_pos (given.mpr isGiven)]
    exact Or.inr (Or.inr ⟨Or.inl isGiven, fun d shape => shape.notGiven isGiven, rfl⟩)
  · rw [if_neg (fun h => isGiven (given.mp h))]
    cases found : g.program.resolve path with
    | none =>
        refine Or.inl ⟨isGiven, rfl, fun d shape => ?_, rfl⟩
        cases found.symm.trans shape.declared
    | some d =>
        by_cases isShape : d.isShape = true
        · obtain ⟨kind, concrete⟩ := isShape_iff.mp isShape
          exact Or.inr (Or.inl ⟨d, ⟨isGiven, found, kind, concrete⟩, by simp [isShape]⟩)
        · refine Or.inr (Or.inr ⟨Or.inr (by simp), fun e shape => isShape ?_, by simp [isShape]⟩)
          cases found.symm.trans shape.declared
          exact isShape_iff.mpr ⟨shape.kind, shape.concrete⟩

/-- The walk goes on to the types that a type leads to. -/
theorem mem_next_iff {t u : TypeExpr} : u ∈ (g.visit t).next ↔ g.Visits t u := by
  cases t with
  | array element =>
      constructor
      · intro mem
        rw [List.mem_singleton.mp mem]
        exact .element
      · rintro ⟨⟩
        exact List.mem_singleton.mpr rfl
  | optional inner =>
      constructor
      · intro mem
        rw [List.mem_singleton.mp mem]
        exact .inner
      · rintro ⟨⟩
        exact List.mem_singleton.mpr rfl
  | param name =>
      constructor
      · intro mem
        cases mem
      · rintro ⟨⟩
  | unresolved =>
      constructor
      · intro mem
        cases mem
      · rintro ⟨⟩
  | named path args =>
      change u ∈ (g.visitNamed path args).next ↔ _
      rcases g.visitNamed_cases path args with
        ⟨notGiven, undeclared, noShape, visit⟩ | ⟨d, shape, visit⟩ | ⟨stops, noShape, visit⟩
      · rw [visit]
        refine ⟨fun mem => .undeclared notGiven undeclared mem, fun visits => ?_⟩
        cases visits with
        | undeclared _ _ mem => exact mem
        | argument shape _ => exact absurd shape (noShape _)
        | field shape _ _ _ => exact absurd shape (noShape _)
      · rw [visit, Visit.next, List.mem_append, mem_fieldTypes shape.declared]
        constructor
        · rintro (mem | ⟨source, f, contributes, mem, serialized, rfl⟩)
          · exact .argument shape mem
          · exact .field shape contributes mem serialized
        · intro visits
          cases visits with
          | undeclared _ _ mem => exact Or.inl mem
          | argument _ mem => exact Or.inl mem
          | field shape' contributes mem serialized =>
              rw [← shape.unique shape'] at contributes
              exact Or.inr ⟨_, _, contributes, mem, serialized, rfl⟩
      · rw [visit]
        refine ⟨fun mem => absurd mem List.not_mem_nil, fun visits => ?_⟩
        cases visits with
        | undeclared notGiven undeclared _ =>
            rcases stops with given | declared
            · exact absurd given notGiven
            · exact absurd undeclared declared
        | argument shape _ => exact absurd shape (noShape _)
        | field shape _ _ _ => exact absurd shape (noShape _)

theorem isMember_named {path : String} {args : List TypeExpr} :
    g.IsMember (.named path args) ↔ ∃ d, g.Shape path args d := by
  constructor
  · rintro ⟨_, _, d, same, shape⟩
    cases same
    exact ⟨d, shape⟩
  · rintro ⟨d, shape⟩
    exact ⟨path, args, d, rfl, shape⟩

/-- The walk takes up exactly the types that can be members. -/
theorem isMember_iff {t : TypeExpr} : g.IsMember t ↔ ∃ next, g.visit t = .member next := by
  cases t with
  | named path args =>
      rw [isMember_named]
      change _ ↔ ∃ next, g.visitNamed path args = .member next
      rcases g.visitNamed_cases path args with
        ⟨-, -, noShape, visit⟩ | ⟨d, shape, visit⟩ | ⟨-, noShape, visit⟩
      · simpa [visit] using noShape
      · simpa [visit] using ⟨d, shape⟩
      · simpa [visit] using noShape
  | _ => simp [IsMember, visit]

/-!
### Types that were read

On a program all of whose types were read from texts, visits stay among such types.
-/

theorem mem_types_of_baseStep {d e : Declaration} (steps : ReflTransGen g.program.BaseStep d e)
    (isType : d ∈ g.program.types) : e ∈ g.program.types := by
  induction steps with
  | refl => exact isType
  | tail _ step _ =>
      obtain ⟨base, -, found⟩ := step
      exact (Program.resolve_some found).1

theorem Contributes.mem_types {d source : Declaration} (contributes : g.Contributes d source)
    (isType : d ∈ g.program.types) : source ∈ g.program.types := by
  rcases contributes with rfl | ⟨-, steps⟩
  · exact isType
  · exact mem_types_of_baseStep steps isType

/-- A type that was read leads only to types that were read. -/
theorem Visits.writable {t u : TypeExpr} (visits : g.Visits t u) (written : g.program.Written)
    (writable : Writable t) : Writable u := by
  cases visits with
  | element =>
      cases writable with
      | array inner => exact inner
  | inner =>
      cases writable with
      | optional inner => exact inner
  | undeclared _ _ mem => exact writable.of_mem_args mem
  | argument _ mem => exact writable.of_mem_args mem
  | field shape contributes mem _ =>
      have isType := contributes.mem_types (Program.resolve_some shape.declared).1
      exact (written _ isType).fields _ mem

end RouteScribe.TypeGraph
