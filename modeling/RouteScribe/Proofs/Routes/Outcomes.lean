/-
Module: RouteScribe.Proofs.Routes.Outcomes
Layer: Proofs
Purpose: What becomes of a marker among the attributes of a method. Stated apart from the reading of markers,
  every marker either makes a route or is refused, by the kind of the marker and the form of its
  arguments. A list of attributes gives the routes and the findings of its markers, in their order.
Imports: Mathlib.Data.List.Forall2, RouteScribe.Marker, RouteScribe.Proofs.Reachability.BaseChain
Trusted boundary: human-reviewed spec
Main exports: Verb.marker?, IsMarker, MarkerOutcome, Settles, unknownVerbs, Conventions.verbOfMarker?_eq_some_iff,
  exists_outcomes, outcomes_unique
Open obligations: none
-/
import Mathlib.Data.List.Forall2
import RouteScribe.Marker
import RouteScribe.Proofs.Reachability.BaseChain

namespace RouteScribe

/-!
### The specification
-/

/-- The name of the marker of a single verb, inside the namespace. -/
def Verb.marker? : Verb → Option String
  | .get => some "HttpGet"
  | .post => some "HttpPost"
  | .put => some "HttpPut"
  | .delete => some "HttpDelete"
  | .patch => some "HttpPatch"
  | .head => some "HttpHead"
  | .options => some "HttpOptions"
  | .trace => none
  | .connect => none

/-- Whether an attribute counts for the routes of a method: it is a single-verb marker, the marker of a list
    of verbs, or derives from the base of the single-verb markers. -/
def IsMarker (p : Program) (conv : Conventions) (a : Attribute) : Prop :=
  (∃ verb, conv.verbOfMarker? a.name = some verb) ∨ a.name = conv.routeMarker ∨
    p.Derives a.name conv.verbMarkerBase

instance (p : Program) (conv : Conventions) : DecidablePred (IsMarker p conv) := fun a =>
  decidable_of_iff
    ((conv.verbOfMarker? a.name).isSome = true ∨ a.name = conv.routeMarker ∨
      p.Derives a.name conv.verbMarkerBase)
    (by rw [IsMarker, Option.isSome_iff_exists])

/-- Whether an attribute is the marker of a list of verbs. -/
structure IsMulti (conv : Conventions) (a : Attribute) : Prop where
  notSingle : conv.verbOfMarker? a.name = none
  isRoute : a.name = conv.routeMarker

/-- What becomes of a marker. -/
inductive MarkerOutcome where
  /-- A route with this template and these verbs. -/
  | route (marker : RouteMarker)
  /-- No route, for this reason. -/
  | refused (why : Finding)

namespace MarkerOutcome

/-- What the route is made from. -/
def marker? : MarkerOutcome → Option RouteMarker
  | route marker => some marker
  | refused _ => none

/-- Why there is no route. -/
def why? : MarkerOutcome → Option Finding
  | route _ => none
  | refused why => some why

end MarkerOutcome

/-- `Settles p conv a o` says that `o` becomes of the marker `a`. -/
inductive Settles (p : Program) (conv : Conventions) (a : Attribute) : MarkerOutcome → Prop where
  | bareVerb {verb : Verb} :
      conv.verbOfMarker? a.name = some verb → a.args = [] →
        Settles p conv a (.route ⟨"", .singleton verb⟩)
  | verb {verb : Verb} {template : String} {rest : List Literal} :
      conv.verbOfMarker? a.name = some verb → a.args = .text template :: rest →
        Settles p conv a (.route ⟨template, .singleton verb⟩)
  | noTemplate {verb : Verb} {arg : Literal} {rest : List Literal} :
      conv.verbOfMarker? a.name = some verb → a.args = arg :: rest → (∀ template, arg ≠ .text template) →
        Settles p conv a (.refused (.templateNotText a.name))
  | verbs {template : String} {items rest : List Literal} :
      IsMulti conv a → a.args = .text template :: .list items :: rest →
        (∃ item ∈ items, verbOfLiteral? item ≠ none) →
        Settles p conv a (.route ⟨template, .ofList (items.filterMap verbOfLiteral?)⟩)
  | noVerbs {template : String} {items rest : List Literal} :
      IsMulti conv a → a.args = .text template :: .list items :: rest →
        (∀ item ∈ items, verbOfLiteral? item = none) →
        Settles p conv a (.refused (.noUsableVerb a.name))
  | illTyped {first second : Literal} {rest : List Literal} :
      IsMulti conv a → a.args = first :: second :: rest →
        (∀ template items, ¬ (first = .text template ∧ second = .list items)) →
        Settles p conv a (.refused (.argumentsIllTyped a.name))
  | missing :
      IsMulti conv a → a.args.length < 2 → Settles p conv a (.refused (.argumentsMissing a.name))
  | unknown :
      conv.verbOfMarker? a.name = none → a.name ≠ conv.routeMarker →
        p.Derives a.name conv.verbMarkerBase →
        Settles p conv a (.refused (.unknownVerbMarker a.name))

/-- The items of a list that name no verb, if the attribute is the marker of a list of verbs with a
    template and a list. -/
def unknownVerbs (conv : Conventions) (a : Attribute) : List Finding :=
  if (conv.verbOfMarker? a.name).isNone && a.name == conv.routeMarker then
    match a.args with
    | .text _ :: .list items :: _ =>
      (items.filter fun item => (verbOfLiteral? item).isNone).map fun item => .unknownVerb (shownVerb item)
    | _ => []
  else []

/-!
### Markers of single verbs
-/

namespace Conventions

theorem afterStart?_eq_some_iff {start text rest : List Char} :
    afterStart? start text = some rest ↔ text = start ++ rest := by
  constructor
  · intro found
    rw [afterStart?] at found
    split at found
    · rename_i front
      cases found
      exact (List.prefix_iff_eq_append.mp (List.isPrefixOf_iff_prefix.mp front)).symm
    · cases found
  · rintro rfl
    rw [afterStart?, if_pos (List.isPrefixOf_iff_prefix.mpr (List.prefix_append start rest)), List.drop_left]

theorem find?_singleVerbMarkers {marker : List Char} {verb : Verb} :
    (singleVerbMarkers.find? fun entry => entry.1.toList == marker).map Prod.snd = some verb ↔
      ∃ name, verb.marker? = some name ∧ name.toList = marker := by
  constructor
  · intro found
    obtain ⟨entry, isEntry, rfl⟩ := Option.map_eq_some_iff.mp found
    have named : ∀ entry ∈ singleVerbMarkers, entry.2.marker? = some entry.1 := by decide
    exact ⟨entry.1, named entry (List.mem_of_find?_eq_some isEntry), by simpa using List.find?_some isEntry⟩
  · rintro ⟨name, isMarker, rfl⟩
    cases verb <;> cases isMarker <;> decide

/-- A single-verb marker is recognised by its full path: the namespace, a double colon, and the name of the marker. -/
theorem verbOfMarker?_eq_some_iff {conv : Conventions} {path : String} {verb : Verb} :
    conv.verbOfMarker? path = some verb ↔
      ∃ name, verb.marker? = some name ∧ path = conv.namespacePath ++ "::" ++ name := by
  have chars (name : String) : path = conv.namespacePath ++ "::" ++ name ↔
      path.toList = conv.namespacePath.toList ++ (ItemPath.separator.toList ++ name.toList) := by
    rw [← String.toList_inj, String.toList_append, String.toList_append, List.append_assoc]
    rfl
  simp only [verbOfMarker?, Option.bind_eq_bind, Option.pure_def, Option.bind_eq_some_iff, afterStart?_eq_some_iff]
  constructor
  · rintro ⟨_, isPath, marker, rfl, found⟩
    obtain ⟨name, isMarker, rfl⟩ := find?_singleVerbMarkers.mp (Option.map_eq_some_iff.mpr (by simpa using found))
    exact ⟨name, isMarker, (chars name).mpr isPath⟩
  · rintro ⟨name, isMarker, isPath⟩
    have found := Option.map_eq_some_iff.mp (find?_singleVerbMarkers.mpr ⟨name, isMarker, rfl⟩)
    exact ⟨_, (chars name).mp isPath, name.toList, rfl, by simpa using found⟩

end Conventions

/-!
### Agreement with the reading of markers
-/

variable {p : Program} {conv : Conventions} {a : Attribute} {o o' : MarkerOutcome}

theorem VerbSet.isEmpty_ofList {verbs : List Verb} : (VerbSet.ofList verbs).isEmpty = true ↔ verbs = [] := by
  simp only [VerbSet.isEmpty, VerbSet.ofList, List.isEmpty_iff, List.filter_eq_nil_iff,
    List.contains_iff_mem]
  constructor
  · intro none
    refine List.eq_nil_iff_forall_not_mem.mpr fun verb mem => none verb ?_ mem
    cases verb <;> decide
  · rintro rfl verb _
    simp

theorem isEmpty_verbs_iff {items : List Literal} :
    (VerbSet.ofList (items.filterMap verbOfLiteral?)).isEmpty = true ↔
      ∀ item ∈ items, verbOfLiteral? item = none := by
  rw [VerbSet.isEmpty_ofList, List.filterMap_eq_nil_iff]

/-! Each kind of attribute is read in its own way. -/

theorem markerRole_single {verb : Verb} (single : conv.verbOfMarker? a.name = some verb) :
    markerRole p conv a = .single verb := by
  rw [markerRole, single]

theorem markerRole_multi (multi : IsMulti conv a) : markerRole p conv a = .multi := by
  rw [markerRole, multi.notSingle]
  exact if_pos multi.isRoute

theorem markerRole_unknown (notSingle : conv.verbOfMarker? a.name = none) (notRoute : a.name ≠ conv.routeMarker)
    (derives : p.Derives a.name conv.verbMarkerBase) : markerRole p conv a = .unknownSingle := by
  rw [markerRole, notSingle]
  simp only [if_neg notRoute, if_pos (Program.derivesFrom_iff.mpr derives)]

/-- An attribute plays no role for the routes just if it is no marker. -/
theorem markerRole_eq_plain_iff : markerRole p conv a = .plain ↔ ¬ IsMarker p conv a := by
  rw [IsMarker, not_or, not_or]
  constructor
  · intro plain
    refine ⟨?_, fun isRoute => ?_, fun derives => ?_⟩
    · rintro ⟨verb, single⟩
      rw [markerRole_single single] at plain
      cases plain
    · cases single : conv.verbOfMarker? a.name with
      | some verb => rw [markerRole_single single] at plain; cases plain
      | none => rw [markerRole_multi ⟨single, isRoute⟩] at plain; cases plain
    · rw [markerRole] at plain
      split at plain
      · cases plain
      · rw [if_pos (Program.derivesFrom_iff.mpr derives)] at plain
        split at plain <;> cases plain
  · rintro ⟨notSingle, notRoute, notDerived⟩
    have notSingle : conv.verbOfMarker? a.name = none :=
      Option.eq_none_iff_forall_ne_some.mpr fun verb single => notSingle ⟨verb, single⟩
    rw [markerRole, notSingle]
    simp only [if_neg notRoute, if_neg (mt Program.derivesFrom_iff.mp notDerived)]

theorem readMarker_multi (multi : IsMulti conv a) : readMarker p conv a = readMultiMarker a := by
  rw [readMarker, markerRole_multi multi]

theorem unknownVerbs_of_single {verb : Verb} (single : conv.verbOfMarker? a.name = some verb) :
    unknownVerbs conv a = [] := by
  simp [unknownVerbs, single]

theorem unknownVerbs_of_ne (notRoute : a.name ≠ conv.routeMarker) : unknownVerbs conv a = [] := by
  simp [unknownVerbs, notRoute]

theorem unknownVerbs_multi {template : String} {items rest : List Literal} (multi : IsMulti conv a)
    (args : a.args = .text template :: .list items :: rest) :
    unknownVerbs conv a =
      (items.filter fun item => (verbOfLiteral? item).isNone).map fun item =>
        .unknownVerb (shownVerb item) := by
  simp [unknownVerbs, multi.notSingle, ← multi.isRoute, args]

/-- Only the items of a list of verbs behind a template are looked at one by one. -/
theorem unknownVerbs_of_form
    (noForm : ∀ template items rest, a.args ≠ .text template :: .list items :: rest) :
    unknownVerbs conv a = [] := by
  rw [unknownVerbs]
  split
  · split
    · rename_i args
      exact absurd args (noForm _ _ _)
    · rfl
  · rfl

/-- A marker is read as what becomes of it, with a finding for each item that names no verb in front. -/
theorem Settles.readMarker_eq (settles : Settles p conv a o) :
    readMarker p conv a = ⟨o.marker?, unknownVerbs conv a ++ o.why?.toList⟩ := by
  cases settles with
  | bareVerb single args =>
      rw [readMarker, markerRole_single single, unknownVerbs_of_single single, args]
      rfl
  | verb single args =>
      rw [readMarker, markerRole_single single, unknownVerbs_of_single single, args]
      rfl
  | @noTemplate verb arg rest single args noText =>
      rw [readMarker, markerRole_single single, unknownVerbs_of_single single, args]
      cases arg with
      | text template => exact absurd rfl (noText template)
      | _ => rfl
  | @verbs template items rest multi args usable =>
      have some : ¬ (VerbSet.ofList (items.filterMap verbOfLiteral?)).isEmpty = true := by
        rw [isEmpty_verbs_iff]
        obtain ⟨item, mem, names⟩ := usable
        exact fun none => names (none item mem)
      rw [readMarker_multi multi, readMultiMarker, unknownVerbs_multi multi args, args]
      simp only [if_neg some, MarkerOutcome.marker?, MarkerOutcome.why?, Option.toList_none, List.append_nil]
  | @noVerbs template items rest multi args none =>
      have empty := isEmpty_verbs_iff.mpr none
      rw [readMarker_multi multi, readMultiMarker, unknownVerbs_multi multi args, args]
      simp only [if_pos empty, MarkerOutcome.marker?, MarkerOutcome.why?, Option.toList_some]
  | @illTyped first second rest multi args noForm =>
      have noItems : unknownVerbs conv a = [] := unknownVerbs_of_form fun template items others same => by
        rw [args] at same
        cases same
        exact noForm template items ⟨rfl, rfl⟩
      rw [readMarker_multi multi, readMultiMarker, noItems, args]
      split
      · rename_i same
        cases same
        exact absurd ⟨rfl, rfl⟩ (noForm _ _)
      · rfl
      · rename_i short
        exact absurd rfl (short _ _ _)
  | missing multi short =>
      have noItems : unknownVerbs conv a = [] := unknownVerbs_of_form fun template items others same => by
        rw [same, List.length_cons, List.length_cons] at short
        omega
      rw [readMarker_multi multi, readMultiMarker, noItems]
      split
      · rename_i args
        rw [args, List.length_cons, List.length_cons] at short
        omega
      · rename_i args
        rw [args, List.length_cons, List.length_cons] at short
        omega
      · rfl
  | unknown notSingle notRoute derives =>
      rw [readMarker, markerRole_unknown notSingle notRoute derives, unknownVerbs_of_ne notRoute]
      rfl

/-- An attribute that is no marker says nothing about routes. -/
theorem readMarker_of_not (noMarker : ¬ IsMarker p conv a) : readMarker p conv a = .nothing := by
  rw [readMarker, markerRole_eq_plain_iff.mpr noMarker]

/-- The attributes that are kept are no markers. -/
theorem not_isMarker_of_mem_withoutMarkers {attributes : List Attribute}
    (mem : a ∈ withoutMarkers p conv attributes) : ¬ IsMarker p conv a :=
  markerRole_eq_plain_iff.mp (beq_iff_eq.mp (List.mem_filter.mp mem).2)

/-- Something becomes of every marker. -/
theorem exists_settles (marker : IsMarker p conv a) : ∃ o, Settles p conv a o := by
  cases single : conv.verbOfMarker? a.name with
  | some verb =>
      cases args : a.args with
      | nil => exact ⟨_, .bareVerb single args⟩
      | cons arg rest =>
          cases arg with
          | text template => exact ⟨_, .verb single args⟩
          | _ => exact ⟨_, .noTemplate single args nofun⟩
  | none =>
      by_cases isRoute : a.name = conv.routeMarker
      · have multi : IsMulti conv a := ⟨single, isRoute⟩
        cases args : a.args with
        | nil => exact ⟨_, .missing multi (by simp [args])⟩
        | cons first rest =>
            cases rest with
            | nil => exact ⟨_, .missing multi (by simp [args])⟩
            | cons second rest =>
                by_cases form : ∃ template items, first = .text template ∧ second = .list items
                · obtain ⟨template, items, rfl, rfl⟩ := form
                  by_cases usable : ∃ item ∈ items, verbOfLiteral? item ≠ none
                  · exact ⟨_, .verbs multi args usable⟩
                  · exact ⟨_, .noVerbs multi args (by simpa using usable)⟩
                · exact ⟨_, .illTyped multi args fun template items both => form ⟨template, items, both⟩⟩
      · rcases marker with ⟨verb, isSingle⟩ | route | derives
        · rw [single] at isSingle
          cases isSingle
        · exact absurd route isRoute
        · exact ⟨_, .unknown single isRoute derives⟩

/-- Only one thing becomes of a marker. -/
theorem Settles.unique (settles : Settles p conv a o) (settles' : Settles p conv a o') : o = o' := by
  -- both are what the marker is read as, which tells them apart
  have same := settles.readMarker_eq.symm.trans settles'.readMarker_eq
  have markers : o.marker? = o'.marker? := congrArg MarkerReading.marker same
  have reasons : o.why?.toList = o'.why?.toList :=
    List.append_cancel_left (congrArg MarkerReading.findings same)
  cases o <;> cases o' <;> simp_all [MarkerOutcome.marker?, MarkerOutcome.why?]

/-!
### Lists of attributes
-/

/-- The findings of markers that have these outcomes, in order: for each marker the items that name no verb,
    and then why it is refused. -/
def outcomeFindings (conv : Conventions) (markers : List Attribute) (outcomes : List MarkerOutcome) :
    List Finding :=
  (markers.zip outcomes).flatMap fun (a, o) => unknownVerbs conv a ++ o.why?.toList

/-- The markers of a list of attributes have outcomes, which make up all that is read off the list. -/
theorem exists_outcomes (p : Program) (conv : Conventions) (attributes : List Attribute) :
    ∃ outcomes, List.Forall₂ (Settles p conv) (attributes.filter (IsMarker p conv ·)) outcomes ∧
      routeMarkers p conv attributes = outcomes.filterMap MarkerOutcome.marker? ∧
      markerFindings p conv attributes =
        outcomeFindings conv (attributes.filter (IsMarker p conv ·)) outcomes := by
  induction attributes with
  | nil => exact ⟨[], .nil, rfl, rfl⟩
  | cons a attributes ih =>
      obtain ⟨outcomes, settled, routes, findings⟩ := ih
      rw [routeMarkers, List.filterMap_cons, ← routeMarkers, markerFindings, List.flatMap_cons,
        ← markerFindings, routes, findings]
      by_cases marker : IsMarker p conv a
      · obtain ⟨o, settles⟩ := exists_settles marker
        rw [List.filter_cons_of_pos (by simpa using marker), settles.readMarker_eq]
        refine ⟨o :: outcomes, .cons settles settled, ?_, ?_⟩
        · cases o <;> rfl
        · simp [outcomeFindings]
      · rw [List.filter_cons_of_neg (by simpa using marker), readMarker_of_not marker]
        exact ⟨outcomes, settled, rfl, rfl⟩

theorem outcomes_unique {markers : List Attribute} {outcomes others : List MarkerOutcome}
    (settled : List.Forall₂ (Settles p conv) markers outcomes)
    (settled' : List.Forall₂ (Settles p conv) markers others) : outcomes = others :=
  List.right_unique_forall₂' (fun _ _ _ settles settles' => settles.unique settles') settled settled'

/-!
### Codes
-/

/-- Whether a finding says that a marker was refused. -/
def Finding.isRefusal (f : Finding) : Bool := f.code == "RG001" || f.code == "RG003"

theorem Settles.isRefusal (settles : Settles p conv a o) : ∀ why ∈ o.why?, why.isRefusal = true := by
  cases settles <;> simp [MarkerOutcome.why?, Finding.isRefusal, Finding.code]

theorem code_of_mem_unknownVerbs {f : Finding} (mem : f ∈ unknownVerbs conv a) : f.code = "RG002" := by
  rw [unknownVerbs] at mem
  split at mem
  · split at mem
    · obtain ⟨item, -, rfl⟩ := List.mem_map.mp mem
      rfl
    · cases mem
  · cases mem

/-- The refusals among the findings are those of the outcomes. -/
theorem filter_isRefusal_outcomeFindings {markers : List Attribute} {outcomes : List MarkerOutcome}
    (settled : List.Forall₂ (Settles p conv) markers outcomes) :
    (outcomeFindings conv markers outcomes).filter Finding.isRefusal =
      outcomes.filterMap MarkerOutcome.why? := by
  induction settled with
  | nil => rfl
  | @cons a o markers outcomes settles settled ih =>
      have noRefusal : (unknownVerbs conv a).filter Finding.isRefusal = [] := by
        refine List.filter_eq_nil_iff.mpr fun f mem => ?_
        simp [Finding.isRefusal, code_of_mem_unknownVerbs mem]
      have refusal : o.why?.toList.filter Finding.isRefusal = o.why?.toList :=
        List.filter_eq_self.mpr fun f mem => settles.isRefusal f (Option.mem_toList.mp mem)
      rw [outcomeFindings, List.zip_cons_cons, List.flatMap_cons, ← outcomeFindings, List.filter_append,
        List.filter_append, noRefusal, refusal, ih]
      cases o <;> rfl

/-- The unknown verbs among the findings are those of the markers. -/
theorem filter_unknownVerb_outcomeFindings {markers : List Attribute} {outcomes : List MarkerOutcome}
    (settled : List.Forall₂ (Settles p conv) markers outcomes) :
    (outcomeFindings conv markers outcomes).filter (·.code == "RG002") =
      markers.flatMap (unknownVerbs conv) := by
  induction settled with
  | nil => rfl
  | @cons a o markers outcomes settles settled ih =>
      have all : (unknownVerbs conv a).filter (·.code == "RG002") = unknownVerbs conv a :=
        List.filter_eq_self.mpr fun f mem => by simp [code_of_mem_unknownVerbs mem]
      have none : o.why?.toList.filter (·.code == "RG002") = [] := by
        refine List.filter_eq_nil_iff.mpr fun f mem => ?_
        have refusal := settles.isRefusal f (Option.mem_toList.mp mem)
        simp only [Finding.isRefusal, Bool.or_eq_true, beq_iff_eq] at refusal
        rcases refusal with code | code <;> simp [code]
      rw [outcomeFindings, List.zip_cons_cons, List.flatMap_cons, ← outcomeFindings, List.filter_append,
        List.filter_append, all, none, ih, List.append_nil, List.flatMap_cons]

theorem code_of_mem_outcomeFindings {markers : List Attribute} {outcomes : List MarkerOutcome} {f : Finding}
    (settled : List.Forall₂ (Settles p conv) markers outcomes)
    (mem : f ∈ outcomeFindings conv markers outcomes) : f.isRefusal = true ∨ f.code = "RG002" := by
  obtain ⟨⟨a, o⟩, pair, mem⟩ := List.mem_flatMap.mp mem
  rcases List.mem_append.mp mem with mem | mem
  · exact Or.inr (code_of_mem_unknownVerbs mem)
  · have settles : Settles p conv a o := List.forall₂_zip settled pair
    exact Or.inl (settles.isRefusal f (Option.mem_toList.mp mem))

end RouteScribe
