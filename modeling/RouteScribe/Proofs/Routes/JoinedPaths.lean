/-
Module: RouteScribe.Proofs.Routes.JoinedPaths
Layer: Proofs
Purpose: The paths of routes have one slash at each joint. The prefix of a group and the template of a route are joined
  without the slashes at the joint and with one in their place, and another one in front of all; so slashes around
  the text of a group marker, or in front of a template, make no difference. Programs that differ in such slashes
  alone are followed through the whole scan, step by step.
Imports: RouteScribe.Proofs.Routes.ScannedGroups, RouteScribe.Proofs.Text.Trimming
Trusted boundary: human-reviewed spec
Main exports: RoutePath.Joins, RoutePath.JoinedOnce, Attribute.Retexted, Program.PadsTo, RouteGroup.SamePaths,
  paths_joined_once
Open obligations: none
-/
import RouteScribe.Proofs.Routes.ScannedGroups
import RouteScribe.Proofs.Text.Trimming

namespace RouteScribe

/-!
### The specification
-/

namespace RoutePath

/-- A row of slashes. -/
def slashes (n : Nat) : String := String.ofList (List.replicate n '/')

/-- `Joins base rest path` says that `path` is made up of the prefix of a group and of the rest of a template. -/
inductive Joins : String → String → String → Prop where
  | root : Joins "" "" "/"
  | base {base : String} : base ≠ "" → Joins base "" ("/" ++ base)
  | rest {rest : String} : rest ≠ "" → Joins "" rest ("/" ++ rest)
  | both {base rest : String} : base ≠ "" → rest ≠ "" → Joins base rest ("/" ++ base ++ "/" ++ rest)

/-- `JoinedOnce base template path` says that the path of a route has one slash at each joint. -/
structure JoinedOnce (base template path : String) : Prop where
  /-- Only the slashes at the start of the template are left out, and all of them, -/
  joins : ∃ n rest, template = slashes n ++ rest ∧ rest.toList.head? ≠ some '/' ∧ Joins base rest path
  /-- the prefix has none to leave out, -/
  trimmed : base.toList.head? ≠ some '/' ∧ base.toList.getLast? ≠ some '/'
  /-- and the path starts with a single one. -/
  start : ∃ behind, path = "/" ++ behind ∧ behind.toList.head? ≠ some '/'

/-- Whether slashes have been put around a text. -/
def PutAround (text text' : String) : Prop := ∃ before behind, text' = slashes before ++ text ++ slashes behind

/-- Whether slashes have been put in front of a text. -/
def PutInFront (text text' : String) : Prop := ∃ before, text' = slashes before ++ text

end RoutePath

/-- `Retexted applies changes a b` says that `b` is the attribute `a`, or that it differs from `a` in its first
    argument, a text, which `changes` allows for attributes with such a name. -/
inductive Attribute.Retexted (applies : String → Prop) (changes : String → String → Prop) :
    Attribute → Attribute → Prop where
  | same (a : Attribute) : Retexted applies changes a a
  | first {name text text' : String} {rest : List Literal} {named : List NamedLiteral} :
      applies name → changes text text' →
        Retexted applies changes ⟨name, .text text :: rest, named⟩ ⟨name, .text text' :: rest, named⟩

/-- Whether attributes of a name give a template. -/
def Conventions.GivesTemplate (conv : Conventions) (name : String) : Prop :=
  (∃ verb, conv.verbOfMarker? name = some verb) ∨ name = conv.routeMarker

/-- Whether a method differs from another one in slashes in front of its templates alone. -/
structure Method.PadsTo (conv : Conventions) (m m' : Method) : Prop where
  attributes : List.Forall₂ (Attribute.Retexted conv.GivesTemplate RoutePath.PutInFront) m.attributes m'.attributes
  same : m' = { m with attributes := m'.attributes }

/-- Whether a declaration differs from another one in slashes around its prefixes, and in front of the templates of its
    methods, alone. -/
structure Declaration.PadsTo (conv : Conventions) (d d' : Declaration) : Prop where
  attributes : List.Forall₂ (Attribute.Retexted (· = conv.groupMarker) RoutePath.PutAround) d.attributes d'.attributes
  methods : List.Forall₂ (Method.PadsTo conv) d.methods d'.methods
  same : d' = { d with attributes := d'.attributes, methods := d'.methods }

/-- Whether a program differs from another one in such slashes alone. -/
structure Program.PadsTo (conv : Conventions) (p p' : Program) : Prop where
  declarations : List.Forall₂ (Declaration.PadsTo conv) p.declarations p'.declarations

/-- Whether two groups have the same routes at the same paths, however their templates are written. -/
structure RouteGroup.SamePaths (g g' : RouteGroup) : Prop where
  path : g'.path = g.path
  pathPrefix : g'.pathPrefix = g.pathPrefix
  routes : List.Forall₂ (fun e e' => e' = { e with template := e'.template } ∧ g'.pathOf e' = g.pathOf e)
    g.entries g'.entries

/-!
### Joining
-/

namespace RoutePath

variable {base template text text' : String}

theorem toList_slashes (n : Nat) : (slashes n).toList = List.replicate n '/' := String.toList_ofList

theorem isSlash_of_mem_slashes {n : Nat} : ∀ c ∈ List.replicate n '/', isSlash c = true := by
  intro c mem
  rw [List.eq_of_mem_replicate mem]
  rfl

/-- A text is made up of slashes and of what is left without them. -/
theorem exists_slashes (text : String) :
    ∃ n, text = slashes n ++ String.ofList (Text.dropStart isSlash text.toList) := by
  refine ⟨(text.toList.takeWhile isSlash).length, String.toList_inj.mp ?_⟩
  have row : text.toList.takeWhile isSlash = List.replicate (text.toList.takeWhile isSlash).length '/' := by
    apply List.eq_replicate_of_mem
    intro c mem
    simpa [isSlash] using List.mem_takeWhile_imp mem
  rw [String.toList_append, toList_slashes, ← row, String.toList_ofList, Text.dropStart,
    List.takeWhile_append_dropWhile]

theorem joins_combine (base template : String) :
    Joins base (String.ofList (Text.dropStart isSlash template.toList)) ("/" ++ combine base template) := by
  have empty {cs : List Char} : String.ofList cs ≠ "" ↔ ¬ cs.isEmpty = true := by
    rw [List.isEmpty_iff, ne_eq, String.ofList_eq_empty_iff]
  rw [combine]
  split
  · rename_i isEmpty
    rw [String.isEmpty_iff.mp isEmpty]
    by_cases none : (Text.dropStart isSlash template.toList).isEmpty = true
    · rw [List.isEmpty_iff.mp none]
      exact .root
    · exact .rest (empty.mpr none)
  · rename_i nonempty
    have nonempty : base ≠ "" := mt String.isEmpty_iff.mpr nonempty
    split
    · rename_i none
      rw [List.isEmpty_iff.mp none]
      exact .base nonempty
    · rename_i rest
      rw [← String.append_assoc, ← String.append_assoc]
      exact .both nonempty (empty.mpr rest)

/-- What starts with a prefix starts with no slash. -/
theorem head?_append_ne {front back : String} (nonempty : front ≠ "") (noSlash : front.toList.head? ≠ some '/') :
    (front ++ back).toList.head? ≠ some '/' := by
  rw [String.toList_append, List.head?_append_of_ne_nil _ (mt String.toList_eq_nil_iff.mp nonempty)]
  exact noSlash

/-- A path has a single slash in front, if neither part starts with one. -/
theorem Joins.start {rest path : String} (joins : Joins base rest path) (noSlash : base.toList.head? ≠ some '/')
    (noSlash' : rest.toList.head? ≠ some '/') : ∃ behind, path = "/" ++ behind ∧ behind.toList.head? ≠ some '/' := by
  cases joins with
  | root => exact ⟨"", rfl, by decide⟩
  | base _ => exact ⟨base, rfl, noSlash⟩
  | rest _ => exact ⟨rest, rfl, noSlash'⟩
  | both nonempty _ =>
      refine ⟨base ++ "/" ++ rest, by simp only [String.append_assoc], ?_⟩
      rw [String.append_assoc]
      exact head?_append_ne nonempty noSlash

theorem joinedOnce_combine (template : String) (first : base.toList.head? ≠ some '/')
    (last : base.toList.getLast? ≠ some '/') : JoinedOnce base template ("/" ++ combine base template) := by
  obtain ⟨n, split⟩ := exists_slashes template
  have noSlash : (String.ofList (Text.dropStart isSlash template.toList)).toList.head? ≠ some '/' := by
    intro start
    rw [String.toList_ofList] at start
    simpa [isSlash] using Text.head?_dropStart start
  have joins := joins_combine base template
  exact ⟨⟨n, _, split, noSlash, joins⟩, ⟨first, last⟩, joins.start first noSlash⟩

/-- Slashes around the text of a prefix do not count, -/
theorem normalizePrefix_eq (around : PutAround text text') : normalizePrefix text' = normalizePrefix text := by
  obtain ⟨before, behind, rfl⟩ := around
  rw [normalizePrefix, String.toList_append, String.toList_append, toList_slashes, toList_slashes,
    Text.dropEnds_padded isSlash_of_mem_slashes isSlash_of_mem_slashes, ← normalizePrefix]

/-- and neither do slashes in front of a template. -/
theorem combine_eq (inFront : PutInFront text text') : combine base text' = combine base text := by
  obtain ⟨before, rfl⟩ := inFront
  have same : Text.dropStart isSlash (slashes before ++ text).toList = Text.dropStart isSlash text.toList := by
    rw [String.toList_append, toList_slashes, Text.dropStart_padded isSlash_of_mem_slashes]
  rw [combine, same, ← combine]

end RoutePath

/-!
### Attributes
-/

section

variable {applies : String → Prop} {changes : String → String → Prop} {a a' : Attribute}
  {attributes attributes' : List Attribute} {conv : Conventions}

theorem Attribute.Retexted.name_eq (retexted : a.Retexted applies changes a') : a'.name = a.name := by
  cases retexted <;> rfl

/-- Slashes around the text of a group marker leave the prefix, and what is wrong with it. -/
theorem groupPrefix_eq
    (padded : List.Forall₂ (Attribute.Retexted (· = conv.groupMarker) RoutePath.PutAround) attributes attributes') :
    groupPrefix conv attributes' = groupPrefix conv attributes := by
  induction padded with
  | nil => rfl
  | @cons a a' attributes attributes' first rest ih =>
      by_cases isMarker : a.name = conv.groupMarker
      · have isMarker' : a'.name = conv.groupMarker := first.name_eq.trans isMarker
        rw [groupPrefix, groupPrefix, List.find?_cons_of_pos (by simpa using isMarker'),
          List.find?_cons_of_pos (by simpa using isMarker)]
        cases first with
        | same => rfl
        | first _ around => simp only [RoutePath.normalizePrefix_eq around]
      · have other : ¬ a'.name = conv.groupMarker := fun same => isMarker (first.name_eq.symm.trans same)
        rw [groupPrefix, groupPrefix, List.find?_cons_of_neg (by simpa using other),
          List.find?_cons_of_neg (by simpa using isMarker), ← groupPrefix, ← groupPrefix, ih]

theorem hasAttribute_eq (padded : List.Forall₂ (Attribute.Retexted applies changes) attributes attributes')
    (name : String) : hasAttribute attributes' name = hasAttribute attributes name := by
  induction padded with
  | nil => rfl
  | cons first _ ih =>
      rw [hasAttribute, List.any_cons, first.name_eq, ← hasAttribute, ih]
      rfl

end

/-!
### Declarations
-/

namespace Declaration.PadsTo

variable {conv : Conventions} {d d' e e' : Declaration} {ds ds' : List Declaration}

theorem path_eq (pads : d.PadsTo conv d') : d'.path = d.path := by
  rw [pads.same]

theorem basePath?_eq (pads : d.PadsTo conv d') : d'.basePath? = d.basePath? := by
  rw [pads.same]
  rfl

theorem absorb (pads : d.PadsTo conv d') (pads' : e.PadsTo conv e') : (d.absorb e).PadsTo conv (d'.absorb e') where
  attributes := List.rel_append pads.attributes pads'.attributes
  methods := List.rel_append pads.methods pads'.methods
  same := by
    have same : d'.absorb e' = { d.absorb e with
        attributes := d'.attributes ++ e'.attributes, methods := d'.methods ++ e'.methods } := by
      rw [pads.same, pads'.same]
      rfl
    exact same

theorem absorbPart (known : List.Forall₂ (PadsTo conv) ds ds') (pads : d.PadsTo conv d') :
    List.Forall₂ (PadsTo conv) (RouteScribe.absorbPart ds d) (RouteScribe.absorbPart ds' d') := by
  induction known with
  | nil => exact .cons pads .nil
  | cons first rest ih =>
      rw [RouteScribe.absorbPart, RouteScribe.absorbPart, first.path_eq, pads.path_eq]
      split
      · exact .cons (first.absorb pads) rest
      · exact .cons first ih

end Declaration.PadsTo

/-- The first members that pass tests which agree are related. -/
theorem rel_find? {α β : Type} {R : α → β → Prop} {f : α → Bool} {g : β → Bool} {xs : List α} {ys : List β}
    (agree : ∀ x y, R x y → g y = f x) (related : List.Forall₂ R xs ys) : Option.Rel R (xs.find? f) (ys.find? g) := by
  induction related with
  | nil => exact .none
  | @cons x y xs ys first _ ih =>
      rw [List.find?_cons, List.find?_cons, agree x y first]
      split
      · exact .some first
      · exact ih

namespace Program.PadsTo

variable {conv : Conventions} {p p' : Program} {path base : String}

theorem types (pads : p.PadsTo conv p') : List.Forall₂ (Declaration.PadsTo conv) p.types p'.types := by
  rw [p.types_eq, p'.types_eq]
  apply List.rel_foldl (P := List.Forall₂ (Declaration.PadsTo conv)) _ .nil pads.declarations
  intro ds ds' known d d' padsPart
  exact Declaration.PadsTo.absorbPart known padsPart

theorem resolve (pads : p.PadsTo conv p') (path : String) :
    Option.Rel (Declaration.PadsTo conv) (p.resolve path) (p'.resolve path) :=
  rel_find? (fun _ _ pads => by rw [pads.path_eq]) pads.types

theorem resolve_none (pads : p.PadsTo conv p') (none : p.resolve path = none) : p'.resolve path = .none := by
  have related := pads.resolve path
  rw [none] at related
  cases found : p'.resolve path with
  | none => rfl
  | some d' =>
      rw [found] at related
      cases related

theorem resolve_some {d : Declaration} (pads : p.PadsTo conv p') (found : p.resolve path = some d) :
    ∃ d', p'.resolve path = some d' ∧ d.PadsTo conv d' := by
  have related := pads.resolve path
  rw [found] at related
  cases found' : p'.resolve path with
  | none =>
      rw [found'] at related
      cases related
  | some d' =>
      rw [found'] at related
      cases related with
      | some pads => exact ⟨d', rfl, pads⟩

/-- Base chains run through the same paths. -/
theorem basePaths_eq (pads : p.PadsTo conv p') (visited : List String) (path : String) :
    (p'.chainFrom visited path).map (·.basePath?) = (p.chainFrom visited path).map (·.basePath?) := by
  fun_induction chainFrom p visited path with
  | case1 visited path none => rw [chainFrom_undeclared (pads.resolve_none none)]
  | case2 visited path d found old =>
      obtain ⟨d', found', same⟩ := pads.resolve_some found
      rw [chainFrom_old found' (by simpa [same.path_eq] using old)]
  | case3 visited path d found new noBase =>
      obtain ⟨d', found', same⟩ := pads.resolve_some found
      rw [chainFrom_new found' (by simpa [same.path_eq] using new), same.basePath?_eq, noBase]
      simp [same.basePath?_eq]
  | case4 visited path d found new base isBase ih =>
      obtain ⟨d', found', same⟩ := pads.resolve_some found
      rw [chainFrom_new found' (by simpa [same.path_eq] using new), same.basePath?_eq, isBase]
      simp [same.basePath?_eq, same.path_eq, ih]

theorem derivesFrom_eq (pads : p.PadsTo conv p') : p'.derivesFrom = p.derivesFrom := by
  funext path base
  have test : ∀ q : Program, q.derivesFrom path base = ((q.baseChain path).map (·.basePath?)).any (· == some base) := by
    intro q
    rw [List.any_map]
    rfl
  rw [test, test, baseChain, baseChain, pads.basePaths_eq]

/-- An attribute has one role in both programs, whatever its arguments are. -/
theorem markerRole_eq {a a' : Attribute} (pads : p.PadsTo conv p') (sameName : a'.name = a.name) :
    markerRole p' conv a' = markerRole p conv a := by
  rw [markerRole, markerRole, sameName, pads.derivesFrom_eq]

end Program.PadsTo

/-!
### Routes
-/

/-- Whether two markers have the same verbs, and templates that differ in slashes in front of them. -/
def RouteMarker.PadsTo (marker marker' : RouteMarker) : Prop :=
  marker'.verbs = marker.verbs ∧ RoutePath.PutInFront marker.template marker'.template

/-- Whether two routes differ in slashes in front of their templates alone. -/
def RouteEntry.PadsTo (e e' : RouteEntry) : Prop :=
  e' = { e with template := e'.template } ∧ RoutePath.PutInFront e.template e'.template

section

variable {conv : Conventions} {p p' : Program} {group : String} {a a' : Attribute} {m m' : Method}
  {d d' : Declaration} {attributes attributes' : List Attribute}

theorem RoutePath.PutInFront.refl (text : String) : PutInFront text text := ⟨0, (String.empty_append).symm⟩

theorem RouteMarker.PadsTo.rel_refl (marker : Option RouteMarker) : Option.Rel RouteMarker.PadsTo marker marker := by
  cases marker with
  | none => exact .none
  | some marker => exact .some ⟨rfl, .refl _⟩

/-- The same is read from a marker with slashes in front of its template, but for these slashes. -/
theorem rel_readMarker (pads : p.PadsTo conv p')
    (retexted : a.Retexted conv.GivesTemplate RoutePath.PutInFront a') :
    Option.Rel RouteMarker.PadsTo (readMarker p conv a).marker (readMarker p' conv a').marker := by
  rw [readMarker, readMarker, pads.markerRole_eq retexted.name_eq]
  cases retexted with
  | same => exact RouteMarker.PadsTo.rel_refl _
  | @first name text text' rest named _ inFront =>
      cases role : markerRole p conv ⟨name, .text text :: rest, named⟩ with
      | single verb => exact .some ⟨rfl, inFront⟩
      | unknownSingle => exact .none
      | plain => exact .none
      | multi =>
          dsimp only [readMultiMarker]
          cases rest with
          | nil => exact .none
          | cons second rest =>
              cases second with
              | list items =>
                  dsimp only
                  split
                  · exact .none
                  · exact .some ⟨rfl, inFront⟩
              | _ => exact .none

theorem rel_routeMarkers (pads : p.PadsTo conv p')
    (padded : List.Forall₂ (Attribute.Retexted conv.GivesTemplate RoutePath.PutInFront) attributes attributes') :
    List.Forall₂ RouteMarker.PadsTo (routeMarkers p conv attributes) (routeMarkers p' conv attributes') :=
  List.rel_filterMap (fun _ _ retexted => rel_readMarker pads retexted) padded

/-- The attributes with a template are markers. -/
theorem markerRole_ne_plain (gives : conv.GivesTemplate a.name) : markerRole p conv a ≠ .plain := by
  rw [ne_eq, markerRole_eq_plain_iff, Decidable.not_not]
  rcases gives with single | multi
  · exact .inl single
  · exact .inr (.inl multi)

/-- What is handed on stays as it is. -/
theorem withoutMarkers_eq (pads : p.PadsTo conv p')
    (padded : List.Forall₂ (Attribute.Retexted conv.GivesTemplate RoutePath.PutInFront) attributes attributes') :
    withoutMarkers p' conv attributes' = withoutMarkers p conv attributes := by
  induction padded with
  | nil => rfl
  | @cons a a' attributes attributes' first _ ih =>
      rw [withoutMarkers, withoutMarkers, List.filter_cons, List.filter_cons, pads.markerRole_eq first.name_eq,
        ← withoutMarkers, ← withoutMarkers, ih]
      cases first with
      | same => rfl
      | @first name _ _ _ _ gives _ =>
          have notPlain {args : List Literal} {named : List NamedLiteral} :
              ¬ (markerRole p conv ⟨name, args, named⟩ == .plain) = true := by
            simpa using markerRole_ne_plain gives
          rw [if_neg notPlain, if_neg notPlain]

theorem rel_scanMethod (pads : p.PadsTo conv p') (padsMethod : m.PadsTo conv m') :
    List.Forall₂ RouteEntry.PadsTo (scanMethod p conv group m).1 (scanMethod p' conv group m').1 := by
  have markers := rel_routeMarkers pads padsMethod.attributes
  have others := withoutMarkers_eq pads padsMethod.attributes
  have none : (routeMarkers p' conv m'.attributes).isEmpty = (routeMarkers p conv m.attributes).isEmpty := by
    rw [Bool.eq_iff_iff, List.isEmpty_iff_length_eq_zero, List.isEmpty_iff_length_eq_zero, markers.length_eq]
  have unresolved : unresolvedType? m' = unresolvedType? m := by
    rw [padsMethod.same]
    rfl
  simp only [scanMethod, none, unresolved]
  split
  · exact .nil
  · split
    · exact .nil
    · apply List.rel_map _ markers
      rintro marker marker' ⟨sameVerbs, inFront⟩
      refine ⟨?_, inFront⟩
      rw [padsMethod.same] at others ⊢
      simp only [others, sameVerbs]

theorem samePaths_scanGroup (pads : p.PadsTo conv p') (padsType : d.PadsTo conv d') :
    RouteGroup.SamePaths (scanGroup p conv d).1 (scanGroup p' conv d').1 where
  path := padsType.path_eq
  pathPrefix := congrArg Prod.fst (groupPrefix_eq padsType.attributes)
  routes := by
    have publicMethods : List.Forall₂ (Method.PadsTo conv) d.publicMethods d'.publicMethods := by
      apply List.rel_filter _ padsType.methods
      intro m m' padsMethod
      rw [padsMethod.same]
    have entries : List.Forall₂ RouteEntry.PadsTo (scanGroup p conv d).1.entries (scanGroup p' conv d').1.entries := by
      rw [entries_scanGroup, entries_scanGroup, padsType.path_eq]
      exact List.rel_flatMap publicMethods fun _ _ padsMethod => rel_scanMethod pads padsMethod
    apply entries.imp
    rintro e e' ⟨same, inFront⟩
    refine ⟨same, ?_⟩
    have sameBase : (scanGroup p' conv d').1.pathPrefix = (scanGroup p conv d).1.pathPrefix :=
      congrArg Prod.fst (groupPrefix_eq padsType.attributes)
    rw [RouteGroup.pathOf, RouteGroup.pathOf, sameBase, RoutePath.combine_eq inFront]

theorem groupPaths_eq (pads : p.PadsTo conv p') : groupPaths p' conv = groupPaths p conv := by
  have paths : List.Forall₂ (· = ·)
      ((p.declarations.filter fun d => hasAttribute d.attributes conv.groupMarker).map (·.path))
      ((p'.declarations.filter fun d => hasAttribute d.attributes conv.groupMarker).map (·.path)) := by
    rw [List.forall₂_map_left_iff, List.forall₂_map_right_iff]
    have marked : List.Forall₂ (Declaration.PadsTo conv)
        (p.declarations.filter fun d => hasAttribute d.attributes conv.groupMarker)
        (p'.declarations.filter fun d => hasAttribute d.attributes conv.groupMarker) := by
      apply List.rel_filter _ pads.declarations
      intro d d' padsType
      dsimp only
      rw [hasAttribute_eq padsType.attributes]
    exact marked.imp fun _ _ padsType => padsType.path_eq.symm
  rw [List.forall₂_eq_eq_eq] at paths
  rw [groupPaths, groupPaths, paths]

theorem samePaths_scan (pads : p.PadsTo conv p') :
    List.Forall₂ RouteGroup.SamePaths (scan p conv).groups (scan p' conv).groups := by
  have types : List.Forall₂ (Declaration.PadsTo conv) (groupTypes p conv) (groupTypes p' conv) := by
    rw [groupTypes, groupTypes, groupPaths_eq pads]
    apply List.rel_filterMap (R := (· = ·))
    · rintro path _ rfl
      exact pads.resolve path
    · exact List.forall₂_refl _
  rw [groups_scan, groups_scan]
  exact List.rel_map (fun _ _ padsType => samePaths_scanGroup pads padsType) types

end

/-- The path of a route is made up of the prefix of its group and of its template, with one slash in front and one
    between them where both have something. Slashes in front of a template make no difference, and neither do those
    around the text of a group marker: programs that differ in them alone have the same groups, with routes at the same
    paths. -/
theorem paths_joined_once (p : Program) (conv : Conventions) :
    (∀ g ∈ (scan p conv).groups, ∀ e : RouteEntry, RoutePath.JoinedOnce g.pathPrefix e.template (g.pathOf e)) ∧
      (∀ (g : RouteGroup) (e : RouteEntry) (template : String), RoutePath.PutInFront e.template template →
        g.pathOf { e with template } = g.pathOf e) ∧
      ∀ p', p.PadsTo conv p' → List.Forall₂ RouteGroup.SamePaths (scan p conv).groups (scan p' conv).groups := by
  refine ⟨?_, ?_, ?_⟩
  · intro g mem e
    obtain ⟨d, -, -, rfl⟩ := unites_of_mem_scan mem
    obtain ⟨first, last⟩ := groupPrefix_trimmed conv d.attributes
    exact RoutePath.joinedOnce_combine e.template first last
  · intro g e template inFront
    exact congrArg ("/" ++ ·) (RoutePath.combine_eq inFront)
  · intro p' pads
    exact samePaths_scan pads

/-- A type whose group marker and route marker have the given texts. -/
def mounted (base template : String) : Program :=
  .ofDeclarations
    [{ path := "a::Users", attributes := [⟨"routegen::RouteGroup", [.text base], []⟩],
       methods := [{ name := "list", attributes := [⟨"routegen::HttpGet", [.text template], []⟩] }] }]

/-- Slashes inside the texts and at the end of the template count, all others do not. -/
theorem paths_joined_once_padded :
    let conv := Conventions.standard
    let p := mounted "/api//v1" "list//all/"
    let p' := mounted "///api//v1/" "//list//all/"
    (∃ g ∈ (scan p conv).groups, ∃ e ∈ g.entries,
      g.pathOf e = "/api//v1/list//all/" ∧ RoutePath.JoinedOnce g.pathPrefix e.template (g.pathOf e)) ∧
      (∀ g ∈ (scan p conv).groups, ∀ e ∈ g.entries, RoutePath.PutInFront e.template ("//" ++ e.template) ∧
        g.pathOf { e with template := "//" ++ e.template } = g.pathOf e) ∧
      p.PadsTo conv p' ∧ List.Forall₂ RouteGroup.SamePaths (scan p conv).groups (scan p' conv).groups := by
  intro conv p p'
  obtain ⟨joined, inFront, same⟩ := paths_joined_once p conv
  have found : ∃ g ∈ (scan p conv).groups, ∃ e ∈ g.entries, g.pathOf e = "/api//v1/list//all/" := by decide +kernel
  obtain ⟨g, isGroup, e, isEntry, path⟩ := found
  have pads : p.PadsTo conv p' := by
    have gives : conv.GivesTemplate "routegen::HttpGet" := .inl ⟨.get, by decide +kernel⟩
    refine ⟨.cons ⟨.cons (.first rfl ⟨2, 1, by decide⟩) .nil, .cons ⟨?_, rfl⟩ .nil, rfl⟩ .nil⟩
    exact .cons (.first gives ⟨2, by decide⟩) .nil
  refine ⟨⟨g, isGroup, e, isEntry, path, joined g isGroup e⟩, ?_, pads, same p' pads⟩
  intro g _ e _
  have slashes : RoutePath.PutInFront e.template ("//" ++ e.template) := ⟨2, rfl⟩
  exact ⟨slashes, inFront g e _ slashes⟩

end RouteScribe
