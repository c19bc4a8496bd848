/-
Module: RouteScribe.Proofs.Artifact.RegisteredRoutes
Layer: Proofs
Purpose: What the lines of the routing file register. Each line is read below the imports of the file: its literal
  has the route's path for its value, and its target names items of the routing module that answer to the
  verbs of the route, in their order. A qualified item is never hidden by another import, so these names mean
  their items whatever else the file imports.
Imports: RouteScribe.Proofs.Artifact.PreludeNames, RouteScribe.Proofs.Artifact.ReadingBack,
  RouteScribe.Proofs.Text.Literals
Trusted boundary: human-reviewed spec
Main exports: RegisteredRoute, RegisteredRoute.ofRoutes, RegisteredRoute.Answers, RegisteredRoute.WrittenAs,
  UseBlock.Tidy.pathBehind_fst_nameOf, RegisteredRoute.written_text, RegisteredRoute.written_rows
Open obligations: none
-/
import RouteScribe.Proofs.Artifact.PreludeNames
import RouteScribe.Proofs.Artifact.ReadingBack
import RouteScribe.Proofs.Text.Literals

namespace RouteScribe

open ItemPath (isQualified lastSegment)

/-!
### The specification
-/

/-- The verbs that have a routing function of their own, with its name. -/
def dedicatedFunctions : List (Verb × String) :=
  [(.get, "get"), (.post, "post"), (.put, "put"), (.delete, "delete"), (.patch, "patch")]

/-- What a line of the routing file says: requests for a path with one of some verbs go to a function. -/
structure RegisteredRoute where
  path : String
  verbs : List Verb
  wrapper : String
deriving DecidableEq, Repr

namespace RegisteredRoute

/-- What is registered for the route at a place among all routes. -/
def ofRoute (place : Nat) (route : RouteGroup × RouteEntry) : RegisteredRoute where
  path := route.1.pathOf route.2
  verbs := route.2.verbs.verbs
  wrapper := wrapperName route.1 route.2 place

/-- What is registered for routes, the first of which stands at the given place. -/
def ofRoutes (place : Nat) (routes : List (RouteGroup × RouteEntry)) : List RegisteredRoute :=
  (routes.zipIdx place).map fun (route, place) => ofRoute place route

/-- `Answers conv imports wrapper verbs target` says that `target`, read below the imports, lets the function
    `wrapper` answer to the verbs: through the routing function of a single one that has such a function, and
    otherwise through a filter. The place of the filter stays empty if there is no verb. -/
inductive Answers (conv : Conventions) (imports : List String) (wrapper : String) : List Verb → String → Prop where
  | function {verb : Verb} {name function : String} :
      UseBlock.pathBehind imports name = conv.routingModule ++ "::" ++ function →
        (verb, function) ∈ dedicatedFunctions →
          Answers conv imports wrapper [verb] (name ++ "(" ++ wrapper ++ ")")
  | filter {verb : Verb} {verbs : List Verb} {on filter : String} :
      (∀ entry ∈ dedicatedFunctions, verb :: verbs ≠ [entry.1]) →
        UseBlock.pathBehind imports on = conv.routingModule ++ "::on" →
          UseBlock.pathBehind imports filter = conv.routingModule ++ "::MethodFilter" →
            Answers conv imports wrapper (verb :: verbs)
              (on ++ "(" ++ filter ++ "::" ++ verb.name ++
                String.join (verbs.map fun other => ".or(" ++ filter ++ "::" ++ other.name ++ ")") ++
                ", " ++ wrapper ++ ")")
  | none {on : String} :
      UseBlock.pathBehind imports on = conv.routingModule ++ "::on" →
        Answers conv imports wrapper [] (on ++ "(, " ++ wrapper ++ ")")

/-- Whether a line, read below the imports, registers a route. -/
def WrittenAs (conv : Conventions) (imports : List String) (r : RegisteredRoute) (line : String) : Prop :=
  ∃ literal target, Text.ReadsLiteral literal.toList r.path.toList [] ∧
    Answers conv imports r.wrapper r.verbs target ∧ line = ".route(" ++ literal ++ ", " ++ target ++ ")"

end RegisteredRoute

/-!
### Names of qualified items
-/

theorem ItemPath.isQualified_append {front back : String}
    (qualified : isQualified front = true ∨ isQualified back = true) : isQualified (front ++ back) = true := by
  simp only [isQualified, hasSeparator_iff, String.toList_append] at qualified ⊢
  rcases qualified with inside | inside
  · exact inside.trans (List.prefix_append _ _).isInfix
  · exact inside.trans (List.suffix_append _ _).isInfix

/-- Whatever is named later, the name of a qualified item means that item below the final imports. -/
theorem UseBlock.Tidy.pathBehind_fst_nameOf {b uses : UseBlock} {path : String} (tidy : b.Tidy)
    (qualified : isQualified path = true) (grows : (uses.nameOf path).2.imported <+: b.imported) :
    pathBehind b.lines (uses.nameOf path).1 = path := by
  have named := nameOf_of_grows grows
  change pathBehind b.lines (uses.nameIn path) = path
  have same : b.nameIn path = uses.nameIn path := by rw [nameIn, named]
  rw [← same] at named ⊢
  apply tidy.pathBehind_nameIn named
  intro item hides
  rw [← hides.2, ItemPath.isQualified_lastSegment] at qualified
  cases qualified

/-!
### Lines
-/

theorem mem_dedicatedFunctions {verb : Verb} {item : String} :
    (verb, item) ∈ dedicatedFunctions ↔ verb.routingFunction? = some item := by
  cases verb <;> simp [dedicatedFunctions, Verb.routingFunction?, eq_comm]

theorem VerbSet.single?_eq_some {s : VerbSet} {verb : Verb} (single : s.single? = some verb) : s.verbs = [verb] := by
  rw [single?] at single
  split at single
  · rename_i only
    rw [only, Option.some.inj single]
  · cases single

namespace Registration

variable {conv : Conventions} {uses : UseBlock} {g : RouteGroup} {e : RouteEntry}

theorem ofRoute_function {function wrapper : String} (own : e.singleVerb?.bind Verb.routingFunction? = some function) :
    ofRoute conv uses g e wrapper =
      (⟨g.pathOf e, .function (uses.nameOf (conv.routingModule ++ "::" ++ function)).1, wrapper⟩,
        (uses.nameOf (conv.routingModule ++ "::" ++ function)).2) := by
  rw [ofRoute, own]

theorem ofRoute_filter {wrapper : String} (own : e.singleVerb?.bind Verb.routingFunction? = none) :
    let on := uses.nameOf (conv.routingModule ++ "::on")
    let filter := on.2.nameOf (conv.routingModule ++ "::MethodFilter")
    ofRoute conv uses g e wrapper =
      (⟨g.pathOf e, .filtered on.1 filter.1 e.verbs.names, wrapper⟩, filter.2) := by
  rw [ofRoute, own]

theorem text_function (path name wrapper : String) :
    text ⟨path, .function name, wrapper⟩ =
      ".route(" ++ Text.quote path ++ ", " ++ (name ++ "(" ++ wrapper ++ ")") ++ ")" := by
  simp [text, String.append_assoc]

theorem text_filtered (path on filter wrapper : String) (verb : Verb) (verbs : List Verb) :
    text ⟨path, .filtered on filter ((verb :: verbs).map Verb.name), wrapper⟩ =
      ".route(" ++ Text.quote path ++ ", " ++
        (on ++ "(" ++ filter ++ "::" ++ verb.name ++
          String.join (verbs.map fun other => ".or(" ++ filter ++ "::" ++ other.name ++ ")") ++
          ", " ++ wrapper ++ ")") ++ ")" := by
  simp [text, filterText, Function.comp_def, String.append_assoc]

theorem text_unfiltered (path on filter wrapper : String) :
    text ⟨path, .filtered on filter [], wrapper⟩ =
      ".route(" ++ Text.quote path ++ ", " ++ (on ++ "(, " ++ wrapper ++ ")") ++ ")" := by
  have opening : "(" ++ ", " = "(, " := by decide
  simp [text, filterText, String.append_assoc, ← opening]

end Registration

namespace RegisteredRoute

variable {conv : Conventions} {b uses : UseBlock} {g : RouteGroup} {e : RouteEntry}

theorem WrittenAs.of_answers {imports : List String} {path target wrapper : String} {verbs : List Verb}
    (answers : Answers conv imports wrapper verbs target) :
    WrittenAs conv imports ⟨path, verbs, wrapper⟩ (".route(" ++ Text.quote path ++ ", " ++ target ++ ")") := by
  have literal := Text.readsLiteral_quote path []
  rw [List.append_nil] at literal
  exact ⟨_, target, literal, answers, rfl⟩

/-- The target of a registration answers to the verbs of the route. -/
theorem written_text (tidy : b.Tidy) {place : Nat} {wrapper : String} (isWrapper : wrapper = wrapperName g e place)
    (grows : (Registration.ofRoute conv uses g e wrapper).2.imported <+: b.imported) :
    WrittenAs conv b.lines (ofRoute place (g, e)) (Registration.ofRoute conv uses g e wrapper).1.text := by
  have qualified {front back : String} := @ItemPath.isQualified_append front back
  rw [ofRoute, ← isWrapper]
  cases own : e.singleVerb?.bind Verb.routingFunction? with
  | some function =>
      obtain ⟨verb, single, isFunction⟩ := Option.bind_eq_some_iff.mp own
      rw [Registration.ofRoute_function own] at grows ⊢
      rw [VerbSet.single?_eq_some single, Registration.text_function]
      apply WrittenAs.of_answers
      apply Answers.function _ (mem_dedicatedFunctions.mpr isFunction)
      exact tidy.pathBehind_fst_nameOf (qualified (.inl (qualified (.inr (by decide))))) grows
  | none =>
      rw [Registration.ofRoute_filter own] at grows ⊢
      have isOn := tidy.pathBehind_fst_nameOf (@qualified conv.routingModule "::on" (.inr (by decide)))
        ((UseBlock.grows_nameOf _ _).trans grows)
      rw [VerbSet.names]
      cases isVerbs : e.verbs.verbs with
      | nil =>
          rw [List.map_nil, Registration.text_unfiltered]
          exact WrittenAs.of_answers (.none isOn)
      | cons verb verbs =>
          have noFunction : ∀ entry ∈ dedicatedFunctions, verb :: verbs ≠ [entry.1] := by
            intro entry mem only
            have single : e.singleVerb? = some entry.1 := by
              rw [RouteEntry.singleVerb?, VerbSet.single?, isVerbs, only]
            rw [single, Option.bind_some, mem_dedicatedFunctions.mp mem] at own
            cases own
          rw [Registration.text_filtered]
          apply WrittenAs.of_answers
          exact .filter noFunction isOn (tidy.pathBehind_fst_nameOf (qualified (.inr (by decide))) grows)

/-- The rows of routes register them, in order. -/
theorem written_rows (tidy : b.Tidy) {routes : List (RouteGroup × RouteEntry)} {place : Nat}
    (grows : (TableRow.ofRoutes conv uses place routes).2.imported <+: b.imported) :
    List.Forall₂ (fun r (row : TableRow) => WrittenAs conv b.lines r row.registration.text) (ofRoutes place routes)
      (TableRow.ofRoutes conv uses place routes).1 := by
  rw [ofRoutes, List.forall₂_map_left_iff]
  refine (TableRow.made_ofRoutes grows).imp fun placed row made => ?_
  obtain ⟨uses, rfl, grows⟩ := made
  refine written_text tidy rfl (List.IsPrefix.trans ?_ grows)
  rw [TableRow.snd_ofRoute, Registration.snd_ofRoute, TableRow.items, UseBlock.after_append]
  exact UseBlock.grows_after _ _

end RegisteredRoute

end RouteScribe
