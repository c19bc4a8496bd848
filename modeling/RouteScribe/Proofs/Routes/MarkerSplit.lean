/-
Module: RouteScribe.Proofs.Routes.MarkerSplit
Layer: Proofs
Purpose: Every attribute is a marker or is handed on, and neither kind gets in the way of the other. The reading of
  markers and the choice of the attributes to hand on agree on every attribute, the malformed markers and
  those of an unknown kind included; so markers may stand anywhere among other attributes without a change to
  what is handed on, and the other attributes anywhere among markers without a change to the routes.
Imports: RouteScribe.Proofs.Routes.Outcomes
Trusted boundary: human-reviewed spec
Main exports: Interleaved, SplitsAttributes, readMarker_eq_nothing_iff, withoutMarkers_eq_filter,
  attributes_split
Open obligations: none
-/
import RouteScribe.Proofs.Routes.Outcomes

namespace RouteScribe

/-!
### The specification
-/

/-- `Interleaved xs ys zs` says that `zs` is made up of the members of `xs` and those of `ys`, each in their order. -/
inductive Interleaved {α : Type} : List α → List α → List α → Prop where
  | nil : Interleaved [] [] []
  | left {x : α} {xs ys zs : List α} : Interleaved xs ys zs → Interleaved (x :: xs) ys (x :: zs)
  | right {y : α} {xs ys zs : List α} : Interleaved xs ys zs → Interleaved xs (y :: ys) (y :: zs)

/-- `SplitsAttributes p conv attributes kept markers` says that the attributes fall apart into those that are handed
    on and the markers. -/
structure SplitsAttributes (p : Program) (conv : Conventions) (attributes kept markers : List Attribute) :
    Prop where
  /-- Each attribute is on one side, where the order stays the same. -/
  interleaved : Interleaved kept markers attributes
  /-- Those are handed on from which no marker is read and in which nothing is found wrong. -/
  unread : kept = attributes.filter fun a => readMarker p conv a = .nothing
  /-- No attribute is on both sides, -/
  apart : (∀ a ∈ kept, ¬ IsMarker p conv a) ∧ ∀ a ∈ markers, IsMarker p conv a
  /-- and each marker makes a route or is refused with a finding. -/
  accounted : ∃ outcomes, List.Forall₂ (Settles p conv) markers outcomes ∧
    routeMarkers p conv attributes = outcomes.filterMap MarkerOutcome.marker? ∧
    markerFindings p conv attributes = outcomeFindings conv markers outcomes
  /-- There is no marker left among those that are handed on, and nothing wrong with them. -/
  silent : routeMarkers p conv kept = [] ∧ markerFindings p conv kept = []
  /-- All of them are handed on again. -/
  again : withoutMarkers p conv kept = kept

/-!
### Interleaved lists
-/

namespace Interleaved

variable {α β : Type} {xs ys zs : List α}

/-- A list is made up of the members that pass a test and those that do not. -/
theorem of_filter (passes : α → Bool) (xs : List α) :
    Interleaved (xs.filter passes) (xs.filter fun x => !passes x) xs := by
  induction xs with
  | nil => exact .nil
  | cons x xs ih =>
      cases passed : passes x with
      | true =>
          rw [List.filter_cons_of_pos passed, List.filter_cons_of_neg (by simp [passed])]
          exact .left ih
      | false =>
          rw [List.filter_cons_of_neg (by simp [passed]), List.filter_cons_of_pos (by simp [passed])]
          exact .right ih

/-- Members to which nothing belongs may be left out. -/
theorem flatMap_eq {f : α → List β} (interleaved : Interleaved xs ys zs) (nothing : ∀ y ∈ ys, f y = []) :
    zs.flatMap f = xs.flatMap f := by
  induction interleaved with
  | nil => rfl
  | left _ ih => rw [List.flatMap_cons, List.flatMap_cons, ih nothing]
  | right _ ih =>
      obtain ⟨first, others⟩ := List.forall_mem_cons.mp nothing
      rw [List.flatMap_cons, first, List.nil_append, ih others]

theorem filterMap_eq {f : α → Option β} (interleaved : Interleaved xs ys zs) (nothing : ∀ y ∈ ys, f y = none) :
    zs.filterMap f = xs.filterMap f := by
  rw [List.filterMap_eq_flatMap_toList, List.filterMap_eq_flatMap_toList]
  exact interleaved.flatMap_eq fun y mem => by rw [nothing y mem, Option.toList_none]

theorem filter_eq {passes : α → Bool} (interleaved : Interleaved xs ys zs) (fail : ∀ y ∈ ys, passes y = false) :
    zs.filter passes = xs.filter passes := by
  rw [← List.filterMap_eq_filter]
  exact interleaved.filterMap_eq fun y mem => by simp [Option.guard, fail y mem]

end Interleaved

/-!
### One attribute
-/

section

variable {p : Program} {conv : Conventions} {a : Attribute} {attributes others mixed : List Attribute}

/-- A marker always says something. -/
theorem readMarker_eq_nothing_iff : readMarker p conv a = .nothing ↔ ¬ IsMarker p conv a := by
  refine ⟨fun silent marker => ?_, readMarker_of_not⟩
  obtain ⟨o, settles⟩ := exists_settles marker
  rw [settles.readMarker_eq] at silent
  cases o with
  | route marker => cases congrArg MarkerReading.marker silent
  | refused why =>
      have findings : unknownVerbs conv a ++ [why] = [] := congrArg MarkerReading.findings silent
      exact List.append_ne_nil_of_right_ne_nil _ (List.cons_ne_nil _ _) findings

/-- Those attributes are handed on from which nothing is read. -/
theorem withoutMarkers_eq_filter (p : Program) (conv : Conventions) (attributes : List Attribute) :
    withoutMarkers p conv attributes = attributes.filter fun a => readMarker p conv a = .nothing := by
  refine List.filter_congr fun a _ => ?_
  rw [Bool.eq_iff_iff, beq_iff_eq, decide_eq_true_iff, markerRole_eq_plain_iff, readMarker_eq_nothing_iff]

theorem not_passes_iff_isMarker :
    (!decide (readMarker p conv a = .nothing)) = decide (IsMarker p conv a) := by
  rw [Bool.eq_iff_iff, Bool.not_eq_true', decide_eq_false_iff_not, decide_eq_true_iff, readMarker_eq_nothing_iff,
    Decidable.not_not]

/-!
### Lists of attributes
-/

/-- Attributes that are no markers may stand anywhere. -/
theorem routeMarkers_interleaved (interleaved : Interleaved attributes others mixed)
    (plain : ∀ a ∈ others, ¬ IsMarker p conv a) :
    routeMarkers p conv mixed = routeMarkers p conv attributes ∧
      markerFindings p conv mixed = markerFindings p conv attributes := by
  constructor
  · exact interleaved.filterMap_eq fun a mem => by rw [readMarker_of_not (plain a mem)]; rfl
  · exact interleaved.flatMap_eq fun a mem => by rw [readMarker_of_not (plain a mem)]; rfl

/-- Markers may stand anywhere. -/
theorem withoutMarkers_interleaved (interleaved : Interleaved attributes others mixed)
    (markers : ∀ a ∈ others, IsMarker p conv a) :
    withoutMarkers p conv mixed = withoutMarkers p conv attributes :=
  interleaved.filter_eq fun a mem => by
    rw [beq_eq_false_iff_ne, ne_eq, markerRole_eq_plain_iff, Decidable.not_not]
    exact markers a mem

theorem splitsAttributes_withoutMarkers (p : Program) (conv : Conventions) (attributes : List Attribute) :
    SplitsAttributes p conv attributes (withoutMarkers p conv attributes)
      (attributes.filter (IsMarker p conv ·)) where
  interleaved := by
    have split := Interleaved.of_filter (fun a => decide (readMarker p conv a = .nothing)) attributes
    simpa only [not_passes_iff_isMarker, ← withoutMarkers_eq_filter] using split
  unread := withoutMarkers_eq_filter p conv attributes
  apart := ⟨fun a => not_isMarker_of_mem_withoutMarkers, fun a mem => of_decide_eq_true (List.mem_filter.mp mem).2⟩
  accounted := exists_outcomes p conv attributes
  silent := by
    have none : ∀ a ∈ withoutMarkers p conv attributes, readMarker p conv a = .nothing := fun a mem =>
      readMarker_of_not (not_isMarker_of_mem_withoutMarkers mem)
    exact ⟨List.filterMap_eq_nil_iff.mpr fun a mem => by rw [none a mem]; rfl,
      List.flatMap_eq_nil_iff.mpr fun a mem => by rw [none a mem]; rfl⟩
  again := List.filter_eq_self.mpr fun a mem => (List.mem_filter.mp mem).2

end

/-- The attributes of a method fall apart into the markers and those that are handed on. Attributes that are no markers
    may be put anywhere among the others without a change to what is read off the markers, and markers of any kind
    and form without a change to what is handed on. -/
theorem attributes_split (p : Program) (conv : Conventions) (attributes : List Attribute) :
    (∃ markers, SplitsAttributes p conv attributes (withoutMarkers p conv attributes) markers) ∧
      (∀ others mixed, Interleaved attributes others mixed → (∀ a ∈ others, ¬ IsMarker p conv a) →
        routeMarkers p conv mixed = routeMarkers p conv attributes ∧
          markerFindings p conv mixed = markerFindings p conv attributes) ∧
      ∀ others mixed, Interleaved attributes others mixed → (∀ a ∈ others, IsMarker p conv a) →
        withoutMarkers p conv mixed = withoutMarkers p conv attributes :=
  ⟨⟨_, splitsAttributes_withoutMarkers p conv attributes⟩, fun _ _ => routeMarkers_interleaved,
    fun _ _ => withoutMarkers_interleaved⟩

/-- A program in which one attribute derives from the base of the single-verb markers, and another from itself. -/
def looping : Program :=
  .ofDeclarations
    [{ path := "m::Any", base := some (.named "m::Mid" []) },
     { path := "m::Mid", base := some (.named "r::HttpMethod" []) },
     { path := "m::Loop", base := some (.named "m::Loop" []) }]

/-- The attribute that derives from itself is no marker and costs no route; the unknown and the malformed marker
    leave what is handed on. -/
theorem attributes_split_looping :
    let conv := Conventions.ofNamespace "r"
    let get : Attribute := ⟨"r::HttpGet", [.text "x"], []⟩
    let doc : Attribute := ⟨"doc", [], []⟩
    let loop : Attribute := ⟨"m::Loop", [], []⟩
    let markers : List Attribute := [⟨"m::Any", [], []⟩, ⟨"r::Route", [.text "y"], []⟩]
    Interleaved [get, doc] [loop, loop] [loop, get, loop, doc] ∧ (∀ a ∈ [loop, loop], ¬ IsMarker looping conv a) ∧
      routeMarkers looping conv [loop, get, loop, doc] = routeMarkers looping conv [get, doc] ∧
      Interleaved [get, doc] markers (get :: markers ++ [doc]) ∧ (∀ a ∈ markers, IsMarker looping conv a) ∧
      withoutMarkers looping conv (get :: markers ++ [doc]) = withoutMarkers looping conv [get, doc] := by
  intro conv get doc loop markers
  have mixed : Interleaved [get, doc] [loop, loop] [loop, get, loop, doc] := .right (.left (.right (.left .nil)))
  have mixed' : Interleaved [get, doc] markers (get :: markers ++ [doc]) := .left (.right (.right (.left .nil)))
  have plain : ∀ a ∈ [loop, loop], ¬ IsMarker looping conv a := by decide +kernel
  have areMarkers : ∀ a ∈ markers, IsMarker looping conv a := by decide +kernel
  obtain ⟨-, unread, kept⟩ := attributes_split looping conv [get, doc]
  exact ⟨mixed, plain, (unread _ _ mixed plain).1, mixed', areMarkers, kept _ _ mixed' areMarkers⟩

end RouteScribe
