/-
Module: RouteScribe.Proofs.Routes.MarkerAccount
Layer: Proofs
Purpose: No marker is lost and none counts twice. A method's routes and the findings about it account for its
  markers one by one, in their order, and a scan is made up of the accounts of the public methods of
  the types with a group marker.
Imports: RouteScribe.Proofs.Routes.Outcomes, RouteScribe.Proofs.Routes.Scanned
Trusted boundary: human-reviewed spec
Main exports: Method.markers, Method.IsResolved, MarkerAccount, exists_account, scan_accounts
Open obligations: none
-/
import RouteScribe.Proofs.Routes.Outcomes
import RouteScribe.Proofs.Routes.Scanned

namespace RouteScribe

/-!
### The specification
-/

namespace Method

/-- The markers among the attributes of a method, in order. -/
def markers (p : Program) (conv : Conventions) (m : Method) : List Attribute :=
  m.attributes.filter (IsMarker p conv ·)

/-- The types in the signature of a method. -/
def signature (m : Method) : List TypeExpr := m.params.map (·.type) ++ m.returns.toList

/-- Whether all types in the signature could be resolved, with all their parts. -/
def IsResolved (m : Method) : Prop := ∀ t ∈ m.signature, TypeExpr.unresolved ∉ t.parts

/-- The parameters that have the type of a request context. -/
def contexts (conv : Conventions) (m : Method) : List Parameter :=
  m.params.filter (·.type.path? == some conv.contextType)

end Method

/-- The part of a route that comes from its marker. -/
def RouteEntry.marker (e : RouteEntry) : RouteMarker := ⟨e.template, e.verbs⟩

/-- The findings of a code. -/
def findingsOf (code : String) (findings : List Finding) : List Finding := findings.filter (·.code == code)

/-- `MarkerAccount p conv group m outcomes entries findings` says that the routes `entries` and the findings
    account for the markers of the method `m`, of which `outcomes` become. -/
structure MarkerAccount (p : Program) (conv : Conventions) (group : String) (m : Method)
    (outcomes : List MarkerOutcome) (entries : List RouteEntry) (findings : List Finding) : Prop where
  /-- Each marker has its outcome, in order, -/
  settled : List.Forall₂ (Settles p conv) (m.markers p conv) outcomes
  /-- and no other. -/
  unique : ∀ others, List.Forall₂ (Settles p conv) (m.markers p conv) others → others = outcomes
  /-- Every route is handled by the method. -/
  handled : ∀ e ∈ entries, e.group = group ∧ e.handler = m.name
  /-- The routes are those of the outcomes, unless a type could not be resolved. -/
  routes : m.IsResolved → entries.map RouteEntry.marker = outcomes.filterMap MarkerOutcome.marker?
  noRoutes : ¬ m.IsResolved → entries = []
  /-- A marker that makes no route is refused. -/
  refusals : findings.filter Finding.isRefusal = outcomes.filterMap MarkerOutcome.why?
  balance : m.IsResolved →
    entries.length + (findingsOf "RG001" findings).length + (findingsOf "RG003" findings).length =
      (m.markers p conv).length
  /-- Every item that names no verb is reported. -/
  unknown : findingsOf "RG002" findings = (m.markers p conv).flatMap (unknownVerbs conv)
  /-- A method with a route has every request context but the first reported. -/
  contexts : findingsOf "RG005" findings =
    if entries.isEmpty then [] else ((m.contexts conv).drop 1).map fun param => .repeatedContext param.name
  /-- A type that could not be resolved is reported once, where it costs a route, -/
  unresolved : ¬ m.IsResolved → (∃ marker, .route marker ∈ outcomes) →
    ∃ t ∈ m.signature, .unresolved ∈ t.parts ∧ findingsOf "RG004" findings = [.unresolvedType t.text]
  /-- and only there. -/
  noUnresolved : m.IsResolved ∨ (∀ marker, .route marker ∉ outcomes) → findingsOf "RG004" findings = []
  /-- What is found about the markers comes first, in their order. -/
  order : ∃ rest, findings = outcomeFindings conv (m.markers p conv) outcomes ++ rest ∧
    ∀ f ∈ rest, f.code = "RG004" ∨ f.code = "RG005"

/-- The public methods of a type. -/
def Declaration.publicMethods (d : Declaration) : List Method := d.methods.filter (·.isPublic)

/-- `ScanAccount p conv s` says that `s` is made up of the accounts of the public methods of the types with a
    group marker, in order. -/
structure ScanAccount (p : Program) (conv : Conventions) (s : Scanned) : Prop where
  /-- Every type that groups routes has a group marker on some part. -/
  marked : ∀ d ∈ groupTypes p conv, ∃ part ∈ p.declarations,
    part.path = d.path ∧ hasAttribute part.attributes conv.groupMarker = true
  /-- The routes of a group are those of its type's public methods. -/
  routes : s.groups.map (fun g => (g.path, g.entries)) =
    (groupTypes p conv).map fun d =>
      (d.path, d.publicMethods.flatMap fun m => (scanMethod p conv d.path m).1)
  /-- What is found is found about a type's prefix or about one of its public methods, and says so. -/
  diagnostics : s.diagnostics =
    (groupTypes p conv).flatMap fun d =>
      (groupPrefix conv d.attributes).2.map (⟨·, d.path⟩) ++
        d.publicMethods.flatMap fun m => (scanMethod p conv d.path m).2.map (⟨·, methodLocation d m⟩)
  /-- The markers of each of these methods are accounted for. -/
  methods : ∀ d ∈ groupTypes p conv, ∀ m ∈ d.publicMethods, ∃ outcomes,
    MarkerAccount p conv d.path m outcomes (scanMethod p conv d.path m).1 (scanMethod p conv d.path m).2

/-!
### Unresolved types
-/

namespace TypeExpr

mutual

theorem mentionsUnresolved_iff {t : TypeExpr} : t.mentionsUnresolved = true ↔ unresolved ∈ t.parts := by
  cases t with
  | named path args => simp [mentionsUnresolved, parts, anyUnresolved_iff]
  | array element => simp [mentionsUnresolved, parts, mentionsUnresolved_iff]
  | optional inner => simp [mentionsUnresolved, parts, mentionsUnresolved_iff]
  | param name => simp [mentionsUnresolved, parts]
  | unresolved => simp [mentionsUnresolved, parts]

theorem anyUnresolved_iff {ts : List TypeExpr} : anyUnresolved ts = true ↔ unresolved ∈ partsOf ts := by
  cases ts with
  | nil => simp [anyUnresolved, partsOf]
  | cons t ts => simp [anyUnresolved, partsOf, mentionsUnresolved_iff, anyUnresolved_iff]

end

end TypeExpr

theorem unresolvedType?_none {m : Method} : unresolvedType? m = none ↔ m.IsResolved := by
  rw [unresolvedType?, List.find?_eq_none]
  simp only [TypeExpr.mentionsUnresolved_iff]
  exact Iff.rfl

theorem unresolvedType?_some {m : Method} {t : TypeExpr} (found : unresolvedType? m = some t) :
    t ∈ m.signature ∧ .unresolved ∈ t.parts := by
  have mem : t ∈ m.signature := List.mem_of_find?_eq_some found
  have mentions : t.mentionsUnresolved = true := List.find?_some found
  exact ⟨mem, TypeExpr.mentionsUnresolved_iff.mp mentions⟩

/-!
### Methods
-/

section

variable {p : Program} {conv : Conventions} {group : String} {m : Method}

/-- A method without a usable marker has no route. -/
theorem scanMethod_unusable (none : routeMarkers p conv m.attributes = []) :
    scanMethod p conv group m = ([], markerFindings p conv m.attributes) := by
  simp [scanMethod, none]

/-- A usable marker makes no route if a type could not be resolved. -/
theorem scanMethod_unresolved {t : TypeExpr} (usable : routeMarkers p conv m.attributes ≠ [])
    (found : unresolvedType? m = some t) :
    scanMethod p conv group m = ([], markerFindings p conv m.attributes ++ [.unresolvedType t.text]) := by
  simp [scanMethod, usable, found]

/-- Otherwise every usable marker makes a route. -/
theorem scanMethod_resolved (group : String) (usable : routeMarkers p conv m.attributes ≠ []) (resolved : m.IsResolved) :
    (scanMethod p conv group m).1.map RouteEntry.marker = routeMarkers p conv m.attributes ∧
      (scanMethod p conv group m).2 =
        markerFindings p conv m.attributes ++ repeatedContexts conv m.params := by
  have none := unresolvedType?_none.mpr resolved
  constructor
  · simp [scanMethod, usable, none, RouteEntry.marker, Function.comp_def]
  · simp [scanMethod, usable, none]

theorem handled_of_mem_scanMethod {e : RouteEntry} (mem : e ∈ (scanMethod p conv group m).1) :
    e.group = group ∧ e.handler = m.name := by
  simp only [scanMethod] at mem
  split at mem
  · cases mem
  · split at mem
    · cases mem
    · obtain ⟨marker, -, rfl⟩ := List.mem_map.mp mem
      exact ⟨rfl, rfl⟩

end

/-!
### Counting
-/

theorem length_outcomes (outcomes : List MarkerOutcome) :
    (outcomes.filterMap MarkerOutcome.marker?).length + (outcomes.filterMap MarkerOutcome.why?).length =
      outcomes.length := by
  induction outcomes with
  | nil => rfl
  | cons o outcomes ih =>
      cases o with
      | route marker =>
          simp only [List.filterMap_cons, MarkerOutcome.marker?, MarkerOutcome.why?, List.length_cons]
          omega
      | refused why =>
          simp only [List.filterMap_cons, MarkerOutcome.marker?, MarkerOutcome.why?, List.length_cons]
          omega

theorem length_refusals (findings : List Finding) :
    (findingsOf "RG001" findings).length + (findingsOf "RG003" findings).length =
      (findings.filter Finding.isRefusal).length := by
  induction findings with
  | nil => rfl
  | cons f findings ih =>
      simp only [findingsOf] at ih ⊢
      by_cases malformed : f.code = "RG001"
      · have refusal : f.isRefusal = true := by simp [Finding.isRefusal, malformed]
        simp only [List.filter_cons, malformed, refusal]
        simp
        omega
      · by_cases underivable : f.code = "RG003"
        · have refusal : f.isRefusal = true := by simp [Finding.isRefusal, underivable]
          simp only [List.filter_cons, underivable, refusal]
          simp
          omega
        · have other : ¬ f.isRefusal = true := by simp [Finding.isRefusal, malformed, underivable]
          simp [malformed, underivable, other, ih]

/-!
### The account
-/

section

variable {p : Program} {conv : Conventions} {group : String} {m : Method}

/-- What is found besides the markers has no code of theirs. -/
theorem filter_findings {markers : List Attribute} {outcomes : List MarkerOutcome} {rest : List Finding}
    (settled : List.Forall₂ (Settles p conv) markers outcomes)
    (others : ∀ f ∈ rest, f.code = "RG004" ∨ f.code = "RG005") :
    (outcomeFindings conv markers outcomes ++ rest).filter Finding.isRefusal =
        outcomes.filterMap MarkerOutcome.why? ∧
      findingsOf "RG002" (outcomeFindings conv markers outcomes ++ rest) =
        markers.flatMap (unknownVerbs conv) ∧
      findingsOf "RG004" (outcomeFindings conv markers outcomes ++ rest) = findingsOf "RG004" rest ∧
      findingsOf "RG005" (outcomeFindings conv markers outcomes ++ rest) = findingsOf "RG005" rest := by
  have noRefusal : rest.filter Finding.isRefusal = [] := by
    refine List.filter_eq_nil_iff.mpr fun f mem => ?_
    rcases others f mem with code | code <;> simp [Finding.isRefusal, code]
  have noUnknown : findingsOf "RG002" rest = [] := by
    refine List.filter_eq_nil_iff.mpr fun f mem => ?_
    rcases others f mem with code | code <;> simp [code]
  have ofMarkers (code : String) (other : code = "RG004" ∨ code = "RG005") :
      findingsOf code (outcomeFindings conv markers outcomes) = [] := by
    refine List.filter_eq_nil_iff.mpr fun f mem => ?_
    have known := code_of_mem_outcomeFindings settled mem
    simp only [Finding.isRefusal, Bool.or_eq_true, beq_iff_eq, or_assoc] at known
    rcases known with known | known | known <;> rcases other with rfl | rfl <;> simp [known]
  refine ⟨?_, ?_, ?_, ?_⟩
  · rw [List.filter_append, noRefusal, List.append_nil, filter_isRefusal_outcomeFindings settled]
  · rw [findingsOf, List.filter_append, ← findingsOf, ← findingsOf, noUnknown, List.append_nil]
    exact filter_unknownVerb_outcomeFindings settled
  · rw [findingsOf, List.filter_append, ← findingsOf, ← findingsOf, ofMarkers _ (Or.inl rfl), List.nil_append]
  · rw [findingsOf, List.filter_append, ← findingsOf, ← findingsOf, ofMarkers _ (Or.inr rfl), List.nil_append]

/-- With the findings about the markers in front, an account is settled by the routes and the findings behind. -/
theorem MarkerAccount.ofRest {outcomes : List MarkerOutcome} {entries : List RouteEntry} {rest : List Finding}
    (settled : List.Forall₂ (Settles p conv) (m.markers p conv) outcomes)
    (handled : ∀ e ∈ entries, e.group = group ∧ e.handler = m.name)
    (routes : m.IsResolved → entries.map RouteEntry.marker = outcomes.filterMap MarkerOutcome.marker?)
    (noRoutes : ¬ m.IsResolved → entries = [])
    (others : ∀ f ∈ rest, f.code = "RG004" ∨ f.code = "RG005")
    (contexts : findingsOf "RG005" rest = if entries.isEmpty then [] else repeatedContexts conv m.params)
    (unresolved : ¬ m.IsResolved → (∃ marker, .route marker ∈ outcomes) →
      ∃ t ∈ m.signature, .unresolved ∈ t.parts ∧ findingsOf "RG004" rest = [.unresolvedType t.text])
    (noUnresolved : m.IsResolved ∨ (∀ marker, .route marker ∉ outcomes) → findingsOf "RG004" rest = []) :
    MarkerAccount p conv group m outcomes entries
      (outcomeFindings conv (m.markers p conv) outcomes ++ rest) := by
  obtain ⟨refusals, unknown, unresolvedOf, contextsOf⟩ := filter_findings settled others
  have balance (resolved : m.IsResolved) : entries.length +
      ((outcomeFindings conv (m.markers p conv) outcomes ++ rest).filter Finding.isRefusal).length =
        (m.markers p conv).length := by
    have same := congrArg List.length (routes resolved)
    rw [List.length_map] at same
    rw [refusals, same, length_outcomes, settled.length_eq]
  exact {
    settled, handled, routes, noRoutes, refusals, unknown
    unique := fun _ settled' => outcomes_unique settled' settled
    balance := fun resolved => by rw [Nat.add_assoc, length_refusals, balance resolved]
    contexts := contextsOf.trans contexts
    unresolved := by rwa [unresolvedOf]
    noUnresolved := by rwa [unresolvedOf]
    order := ⟨rest, rfl, others⟩ }

theorem mem_outcomes_iff {outcomes : List MarkerOutcome} :
    (∃ marker, .route marker ∈ outcomes) ↔ outcomes.filterMap MarkerOutcome.marker? ≠ [] := by
  constructor
  · rintro ⟨marker, mem⟩ none
    have absent := List.filterMap_eq_nil_iff.mp none _ mem
    cases absent
  · intro some
    obtain ⟨marker, mem⟩ := List.exists_mem_of_ne_nil _ some
    obtain ⟨o, isOutcome, isMarker⟩ := List.mem_filterMap.mp mem
    cases o with
    | route other => exact ⟨other, isOutcome⟩
    | refused why => cases isMarker

theorem findingsOf_repeatedContexts (conv : Conventions) (params : List Parameter) :
    findingsOf "RG004" (repeatedContexts conv params) = [] ∧
      findingsOf "RG005" (repeatedContexts conv params) = repeatedContexts conv params := by
  have code {f : Finding} (mem : f ∈ repeatedContexts conv params) : f.code = "RG005" := by
    obtain ⟨param, -, rfl⟩ := List.mem_map.mp mem
    rfl
  constructor
  · exact List.filter_eq_nil_iff.mpr fun f mem => by simp [code mem]
  · exact List.filter_eq_self.mpr fun f mem => by simp [code mem]

/-- Every method has an account of its markers. -/
theorem exists_account (p : Program) (conv : Conventions) (group : String) (m : Method) :
    ∃ outcomes, MarkerAccount p conv group m outcomes (scanMethod p conv group m).1
      (scanMethod p conv group m).2 := by
  obtain ⟨outcomes, settled, markers, findings⟩ := exists_outcomes p conv m.attributes
  refine ⟨outcomes, ?_⟩
  have handled : ∀ e ∈ (scanMethod p conv group m).1, e.group = group ∧ e.handler = m.name :=
    fun e mem => handled_of_mem_scanMethod mem
  by_cases usable : routeMarkers p conv m.attributes = []
  -- no marker is usable, so an unresolved type costs no route and is not reported
  · have none : ∀ marker, .route marker ∉ outcomes := by
      intro marker mem
      exact mem_outcomes_iff.mp ⟨marker, mem⟩ (markers ▸ usable)
    rw [scanMethod_unusable usable, findings, ← List.append_nil (outcomeFindings _ _ _)]
    refine .ofRest settled nofun (fun _ => ?_) (fun _ => rfl) nofun rfl (fun _ some => ?_) (fun _ => rfl)
    · rw [← markers, usable]
      rfl
    · obtain ⟨marker, mem⟩ := some
      exact absurd mem (none marker)
  · cases found : unresolvedType? m with
    -- a type could not be resolved, which costs the routes of all usable markers
    | some t =>
        obtain ⟨mem, part⟩ := unresolvedType?_some found
        have notResolved : ¬ m.IsResolved := fun resolved => resolved t mem part
        rw [scanMethod_unresolved usable found, findings]
        refine .ofRest settled nofun (fun resolved => absurd resolved notResolved) (fun _ => rfl) ?_ rfl ?_ ?_
        · intro f isFinding
          rw [List.mem_singleton.mp isFinding]
          exact Or.inl rfl
        · exact fun _ _ => ⟨t, mem, part, rfl⟩
        · rintro (resolved | none)
          · exact absurd resolved notResolved
          · obtain ⟨marker, isOutcome⟩ := mem_outcomes_iff.mpr (markers ▸ usable)
            exact absurd isOutcome (none marker)
    -- every usable marker makes a route
    | none =>
        have resolved := unresolvedType?_none.mp found
        obtain ⟨routes, all⟩ := scanMethod_resolved group usable resolved
        obtain ⟨noUnresolved, contexts⟩ := findingsOf_repeatedContexts conv m.params
        rw [all, findings]
        refine .ofRest settled handled (fun _ => routes.trans markers) (absurd resolved) ?_ ?_
          (absurd resolved) (fun _ => noUnresolved)
        · intro f isFinding
          obtain ⟨param, -, rfl⟩ := List.mem_map.mp isFinding
          exact Or.inr rfl
        · have some : ¬ (scanMethod p conv group m).1.isEmpty = true := by
            intro none
            rw [List.isEmpty_iff.mp none] at routes
            exact usable routes.symm
          rw [contexts, if_neg some]

end

/-!
### Scans
-/

section

variable {p : Program} {conv : Conventions}

theorem mem_of_mem_firstOccurrences {x : String} {xs : List String} (mem : x ∈ firstOccurrences xs) :
    x ∈ xs := by
  induction xs with
  | nil => cases mem
  | cons y ys ih =>
      rcases List.mem_cons.mp mem with rfl | mem
      · exact List.mem_cons_self
      · exact List.mem_cons_of_mem _ (ih (List.mem_filter.mp mem).1)

theorem marked_of_mem_groupTypes {d : Declaration} (mem : d ∈ groupTypes p conv) :
    ∃ part ∈ p.declarations,
      part.path = d.path ∧ hasAttribute part.attributes conv.groupMarker = true := by
  obtain ⟨path, isGroup, found⟩ := List.mem_filterMap.mp mem
  obtain ⟨part, isMarked, rfl⟩ := List.mem_map.mp (mem_of_mem_firstOccurrences isGroup)
  obtain ⟨isPart, marked⟩ := List.mem_filter.mp isMarked
  exact ⟨part, isPart, (Program.resolve_some found).2.symm, marked⟩

theorem entries_scanGroup (d : Declaration) :
    (scanGroup p conv d).1.entries = d.publicMethods.flatMap fun m => (scanMethod p conv d.path m).1 := by
  simp [scanGroup, Declaration.publicMethods, List.flatMap_map]

theorem diagnostics_scanGroup (d : Declaration) :
    (scanGroup p conv d).2 =
      (groupPrefix conv d.attributes).2.map (⟨·, d.path⟩) ++
        d.publicMethods.flatMap fun m => (scanMethod p conv d.path m).2.map (⟨·, methodLocation d m⟩) := by
  simp [scanGroup, Declaration.publicMethods, List.flatMap_map]

end

/-- No marker is lost by a scan and none counts twice. -/
theorem scan_accounts (p : Program) (conv : Conventions) : ScanAccount p conv (scan p conv) where
  marked := fun d mem => marked_of_mem_groupTypes mem
  routes := by
    have path (d : Declaration) : (scanGroup p conv d).1.path = d.path := rfl
    simp only [scan, groupTypes, List.map_map, Function.comp_def, entries_scanGroup, path]
  diagnostics := by
    simp only [scan, groupTypes, List.flatMap_map, diagnostics_scanGroup]
  methods := fun d _ m _ => exists_account p conv d.path m

/-- A method with markers of every kind, of a type whose own marker base is `m::Trace`. -/
example :
    let method : Method :=
      { name := "find", attributes := [⟨"m::HttpGet", [.text "a"], []⟩, ⟨"m::Route", [.text "b"], []⟩,
          ⟨"m::Route", [.text "c", .list [.text "get", .text "brew"]], []⟩, ⟨"m::Trace", [], []⟩] }
    let p : Program := .ofDeclarations [{ path := "m::Trace", base := some (.named "m::HttpMethod" []) },
      { path := "a::Items", attributes := [⟨"m::RouteGroup", [], []⟩], methods := [method] }]
    let found := scan p (.ofNamespace "m")
    found.groups.map (·.entries.map (·.template)) = [["a", "c"]] ∧
      found.diagnostics.map (·.code) = ["RG001", "RG002", "RG003"] := by
  decide +kernel

end RouteScribe
