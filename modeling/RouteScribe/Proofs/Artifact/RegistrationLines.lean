/-
Module: RouteScribe.Proofs.Artifact.RegistrationLines
Layer: Proofs
Purpose: A line of the routing file tells its route. Its literal has one value, the path; what stands behind it is the
  call of a routing function or of a filter that lists the verbs, and it can be read as one of them only, by
  whatever names the items are written. So two lines for the same function are equal only if they register the
  same path and the same verbs.
Imports: RouteScribe.Proofs.Artifact.RegisteredRoutes
Trusted boundary: human-reviewed spec
Main exports: WritesVerbs, WritesRoute, WritesRoute.unique, Registration.writesRoute_text,
  Registration.text_determines_route
Open obligations: none
-/
import RouteScribe.Proofs.Artifact.RegisteredRoutes

namespace RouteScribe

/-!
### The specification
-/

namespace VerbSet

/-- Whether a verb is the only member of a set. -/
def IsOnly (s : VerbSet) (verb : Verb) : Prop := ∀ other, other ∈ s.verbs ↔ other = verb

/-- Whether a list has the members of a set, each once and in the fixed order. -/
structure ListedAs (s : VerbSet) (listed : List Verb) : Prop where
  ordered : listed.Sublist Verb.all
  members : ∀ verb, verb ∈ listed ↔ verb ∈ s.verbs

end VerbSet

/-- Whether an item of the routing module is written by a name: its own one or its full path. -/
def WritesItem (item name : String) : Prop := name = item ∨ name = "axum::routing" ++ "::" ++ item

/-- `WritesVerbs wrapper s target` says that `target` lets the function `wrapper` answer to the verbs of a set: by the
    routing function of the only verb, if that has one, and otherwise by a filter that lists the verbs. -/
inductive WritesVerbs (wrapper : String) (s : VerbSet) : String → Prop where
  | function {verb : Verb} {item name : String} :
      (verb, item) ∈ dedicatedFunctions → s.IsOnly verb → WritesItem item name →
        WritesVerbs wrapper s (name ++ "(" ++ wrapper ++ ")")
  | filter {first : Verb} {others : List Verb} {on filter : String} :
      (∀ entry ∈ dedicatedFunctions, ¬ s.IsOnly entry.1) → s.ListedAs (first :: others) →
        WritesItem "on" on → WritesItem "MethodFilter" filter →
          WritesVerbs wrapper s
            (on ++ "(" ++ (filter ++ "::" ++ first.name ++
              String.join (others.map fun verb => ".or(" ++ filter ++ "::" ++ verb.name ++ ")") ++
              ", " ++ wrapper) ++ ")")

/-- `WritesRoute wrapper path s line` says that `line` registers the function `wrapper` for the verbs of a set at a
    path, which is the value of a string literal. -/
def WritesRoute (wrapper path : String) (s : VerbSet) (line : String) : Prop :=
  ∃ behind target, line = ".route(" ++ behind ∧
    Text.ReadsLiteral behind.toList path.toList (", " ++ target ++ ")").toList ∧ WritesVerbs wrapper s target

/-!
### Sets of verbs
-/

namespace VerbSet

variable {s s' : VerbSet} {verb : Verb}

/-- Sets with the same members are the same. -/
theorem ext_members (same : ∀ verb, verb ∈ s.verbs ↔ verb ∈ s'.verbs) : s = s' := by
  have verbs : s.verbs = s'.verbs := by
    rw [s.ordered, s'.ordered]
    apply List.filter_congr
    intro verb _
    rw [Bool.eq_iff_iff, List.contains_iff_mem, List.contains_iff_mem]
    exact same verb
  cases s
  cases s'
  cases verbs
  rfl

theorem IsOnly.verbs_eq (only : s.IsOnly verb) : s.verbs = [verb] := by
  have alone : (singleton verb).verbs = [verb] := by cases verb <;> rfl
  rw [← alone]
  apply congrArg VerbSet.verbs
  apply ext_members
  intro other
  rw [alone, List.mem_singleton]
  exact only other

theorem isOnly_of_eq (alone : s.verbs = [verb]) : s.IsOnly verb := by
  intro other
  rw [alone, List.mem_singleton]

theorem listedAs_verbs (s : VerbSet) : s.ListedAs s.verbs where
  ordered := by
    rw [s.ordered]
    exact List.filter_sublist
  members _ := Iff.rfl

theorem ListedAs.unique {listed : List Verb} (isListed : s.ListedAs listed) (isListed' : s'.ListedAs listed) :
    s = s' := by
  apply ext_members
  intro verb
  rw [← isListed.members, ← isListed'.members]

end VerbSet

/-!
### One reading
-/

/-- A verb is read off its name. -/
theorem Verb.ofText?_name (verb : Verb) : Verb.ofText? verb.name = some verb := by
  cases verb <;> decide

theorem Verb.name_inj {verb verb' : Verb} (same : verb.name.toList = verb'.name.toList) : verb = verb' := by
  have read := ofText?_name verb
  rw [String.toList_inj.mp same, ofText?_name] at read
  exact (Option.some.inj read).symm

/-- The function of a verb belongs to that verb only. -/
theorem dedicatedFunctions_unique {verb verb' : Verb} {item : String} (mem : (verb, item) ∈ dedicatedFunctions)
    (mem' : (verb', item) ∈ dedicatedFunctions) : verb = verb' := by
  have unique : ∀ entry ∈ dedicatedFunctions, ∀ entry' ∈ dedicatedFunctions, entry.2 = entry'.2 →
      entry.1 = entry'.1 := by decide
  exact unique _ mem _ mem' rfl

/-- The characters that end the names of items and verbs in a registration. -/
def nameEnds : List Char := ['(', '.', ')']

/-- The names of items and verbs are made of letters. -/
def IsNamePart (name : String) : Prop := name.toList.all Char.isAlpha = true

instance (name : String) : Decidable (IsNamePart name) := inferInstanceAs (Decidable (_ = true))

section

variable {item item' name name' : String}

theorem IsNamePart.noColon (part : IsNamePart item) : ':' ∉ item.toList := by
  intro mem
  exact absurd (List.all_eq_true.mp part _ mem) (by decide)

theorem IsNamePart.isWord (part : IsNamePart item) : Text.IsWord nameEnds item.toList := .of_all part (by decide)

theorem isNamePart_of_mem {verb : Verb} (mem : (verb, item) ∈ dedicatedFunctions) : IsNamePart item := by
  have parts : ∀ entry ∈ dedicatedFunctions, IsNamePart entry.2 := by decide
  exact parts _ mem

theorem isNamePart_name (verb : Verb) : IsNamePart verb.name := by
  cases verb <;> decide

namespace WritesItem

/-- The item is the last segment of its name, whichever that is. -/
theorem lastSegment_eq (writes : WritesItem item name) (part : IsNamePart item) :
    ItemPath.lastSegment name = item := by
  rcases writes with rfl | rfl
  · exact @ItemPath.lastSegment_of_notMem _ _ [] part.noColon (.inl rfl)
  · exact ItemPath.lastSegment_item part.noColon

theorem isWord (writes : WritesItem item name) (part : IsNamePart item) : Text.IsWord nameEnds name.toList := by
  have module : ("axum::routing" ++ "::").toList.all (fun c => c.isAlpha || c == ':') = true := by decide
  rcases writes with rfl | rfl
  · exact part.isWord
  · rw [String.toList_append]
    exact (Text.IsWord.of_all module (by decide)).append part.isWord

/-- The item that is called, by whatever name, is read in one way. -/
theorem call_inj {inside inside' : String} (writes : WritesItem item name) (part : IsNamePart item)
    (writes' : WritesItem item' name') (part' : IsNamePart item')
    (same : name ++ "(" ++ inside ++ ")" = name' ++ "(" ++ inside' ++ ")") : item = item' ∧ inside = inside' := by
  have call (name inside : String) : (name ++ "(" ++ inside ++ ")").toList =
      name.toList ++ '(' :: (inside.toList ++ [')']) := by simp
  have chars := congrArg String.toList same
  rw [call, call] at chars
  obtain ⟨names, -, behind⟩ := (writes.isWord part).cons_inj (writes'.isWord part') (by decide) (by decide) chars
  rw [← writes.lastSegment_eq part, ← writes'.lastSegment_eq part', String.toList_inj.mp names]
  exact ⟨rfl, String.toList_inj.mp (List.append_cancel_right behind)⟩

end WritesItem

end

/-- The rest of a filter behind its first verb. -/
def filterRest (filter : String) (verbs : List Verb) : String :=
  String.join (verbs.map fun verb => ".or(" ++ filter ++ "::" ++ verb.name ++ ")")

section

variable {filter filter' : String} {verbs verbs' : List Verb}

theorem toList_filterRest_cons (filter : String) (verb : Verb) (verbs : List Verb) :
    (filterRest filter (verb :: verbs)).toList =
      ".or(".toList ++ (filter.toList ++ ("::".toList ++
        (verb.name.toList ++ ')' :: (filterRest filter verbs).toList))) := by
  simp [filterRest]

theorem filterRest_inj (same : (filterRest filter verbs).toList = (filterRest filter verbs').toList) :
    verbs = verbs' := by
  induction verbs generalizing verbs' with
  | nil =>
      cases verbs' with
      | nil => rfl
      | cons verb' verbs' =>
          rw [toList_filterRest_cons] at same
          cases same
  | cons verb verbs ih =>
      cases verbs' with
      | nil =>
          rw [toList_filterRest_cons] at same
          cases same
      | cons verb' verbs' =>
          simp only [toList_filterRest_cons, List.append_cancel_left_eq] at same
          obtain ⟨names, -, behind⟩ :=
            (isNamePart_name verb).isWord.cons_inj (isNamePart_name verb').isWord (by decide) (by decide) same
          rw [Verb.name_inj names, ih behind]

theorem mem_nameEnds_of_mem_filterRest : ∀ c ∈ (filterRest filter verbs).toList.head?, c ∈ nameEnds := by
  cases verbs with
  | nil => nofun
  | cons verb verbs =>
      rw [toList_filterRest_cons]
      rintro _ ⟨⟩
      decide

/-- The verbs of a filter are read in one way, whichever the name of the filter is. -/
theorem filter_inj {first first' : Verb} (writes : WritesItem "MethodFilter" filter)
    (writes' : WritesItem "MethodFilter" filter')
    (same : filter ++ "::" ++ first.name ++ filterRest filter verbs =
      filter' ++ "::" ++ first'.name ++ filterRest filter' verbs') : first :: verbs = first' :: verbs' := by
  have isWord {filter : String} {first : Verb} (writes : WritesItem "MethodFilter" filter) :
      Text.IsWord nameEnds (filter ++ "::" ++ first.name).toList := by
    have colons : "::".toList.all (· == ':') = true := by decide
    rw [String.toList_append, String.toList_append]
    exact ((writes.isWord (by decide)).append (.of_all colons (by decide))).append (isNamePart_name first).isWord
  have chars := congrArg String.toList same
  rw [String.toList_append, @String.toList_append (filter' ++ _ ++ _)] at chars
  obtain ⟨head, rest⟩ := (isWord writes).append_inj (isWord writes') mem_nameEnds_of_mem_filterRest
    mem_nameEnds_of_mem_filterRest chars
  have names : first.name = first'.name := by
    rw [← ItemPath.lastSegment_item (isNamePart_name first).noColon, String.toList_inj.mp head,
      ItemPath.lastSegment_item (isNamePart_name first').noColon]
  obtain rfl := Verb.name_inj (congrArg String.toList names)
  simp only [String.toList_append, List.append_cancel_right_eq] at head
  obtain rfl := String.toList_inj.mp head
  rw [filterRest_inj rest]

end

/-- Whichever names the items are written by, a target is that of one set of verbs. -/
theorem WritesVerbs.unique {wrapper target : String} {s s' : VerbSet} (writes : WritesVerbs wrapper s target)
    (writes' : WritesVerbs wrapper s' target) : s = s' := by
  have noFunction {verb : Verb} : (verb, "on") ∉ dedicatedFunctions := by cases verb <;> decide
  cases writes with
  | function mem only writesItem =>
      generalize same : _ ++ "(" ++ wrapper ++ ")" = target at writes'
      cases writes' with
      | function mem' only' writesItem' =>
          obtain ⟨rfl, -⟩ := writesItem.call_inj (isNamePart_of_mem mem) writesItem' (isNamePart_of_mem mem') same
          obtain rfl := dedicatedFunctions_unique mem mem'
          apply VerbSet.ext_members
          intro verb
          rw [only verb, only' verb]
      | filter _ _ writesOn' _ =>
          obtain ⟨rfl, -⟩ := writesItem.call_inj (isNamePart_of_mem mem) writesOn' (by decide) same
          exact absurd mem noFunction
  | @filter first others on filter _ isListed writesOn writesFilter =>
      generalize same : on ++ "(" ++ _ ++ ")" = target at writes'
      cases writes' with
      | function mem' _ writesItem' =>
          obtain ⟨rfl, -⟩ := writesOn.call_inj (by decide) writesItem' (isNamePart_of_mem mem') same
          exact absurd mem' noFunction
      | filter _ isListed' writesOn' writesFilter' =>
          obtain ⟨-, inside⟩ := writesOn.call_inj (by decide) writesOn' (by decide) same
          simp only [String.append_left_inj] at inside
          have verbs := filter_inj writesFilter writesFilter' inside
          exact isListed.unique (verbs ▸ isListed')

/-- A line is that of one path and one set of verbs. -/
theorem WritesRoute.unique {wrapper path path' line : String} {s s' : VerbSet}
    (writes : WritesRoute wrapper path s line) (writes' : WritesRoute wrapper path' s' line) :
    path = path' ∧ s = s' := by
  obtain ⟨behind, target, rfl, reads, verbs⟩ := writes
  obtain ⟨behind', target', same, reads', verbs'⟩ := writes'
  obtain rfl : behind = behind' := by simpa using same
  obtain ⟨paths, targets⟩ := reads.unique reads'
  obtain rfl : target = target' := String.toList_inj.mp (by simpa using targets)
  exact ⟨String.toList_inj.mp paths, verbs.unique verbs'⟩

/-!
### Lines
-/

theorem writesItem_nameOf {item path : String} (part : IsNamePart item)
    (isPath : path = "axum::routing" ++ "::" ++ item) (uses : UseBlock) : WritesItem item (uses.nameOf path).1 := by
  rw [isPath]
  rcases uses.nameIn_cases ("axum::routing" ++ "::" ++ item) with whole | ⟨-, short⟩
  · exact .inr whole
  · exact .inl (short.trans (ItemPath.lastSegment_item part.noColon))

theorem WritesVerbs.writesRoute {wrapper target : String} {s : VerbSet} (writes : WritesVerbs wrapper s target)
    (path : String) : WritesRoute wrapper path s (".route(" ++ Text.quote path ++ ", " ++ target ++ ")") := by
  have reads := Text.readsLiteral_quote path (", " ++ target ++ ")").toList
  rw [← String.toList_append] at reads
  refine ⟨_, target, ?_, reads, writes⟩
  simp only [String.append_assoc]

namespace Registration

variable {conv : Conventions}

/-- The line of a registration, whatever has been imported before it, registers its route. -/
theorem writesRoute_text (routing : conv.routingModule = "axum::routing") (uses : UseBlock) (g : RouteGroup)
    {e : RouteEntry} (wrapper : String) (nonempty : e.verbs.verbs ≠ []) :
    WritesRoute wrapper (g.pathOf e) e.verbs (ofRoute conv uses g e wrapper).1.text := by
  cases own : e.singleVerb?.bind Verb.routingFunction? with
  | some function =>
      obtain ⟨verb, single, isFunction⟩ := Option.bind_eq_some_iff.mp own
      have mem := mem_dedicatedFunctions.mpr isFunction
      rw [ofRoute_function own, text_function]
      apply WritesVerbs.writesRoute
      apply WritesVerbs.function mem (VerbSet.isOnly_of_eq (VerbSet.single?_eq_some single))
      exact writesItem_nameOf (isNamePart_of_mem mem) (by rw [routing]) uses
  | none =>
      have noFunction : ∀ entry ∈ dedicatedFunctions, ¬ e.verbs.IsOnly entry.1 := by
        intro entry mem only
        have single : e.singleVerb? = some entry.1 := by
          rw [RouteEntry.singleVerb?, VerbSet.single?, only.verbs_eq]
        rw [single, Option.bind_some, mem_dedicatedFunctions.mp mem] at own
        cases own
      obtain ⟨first, others, isVerbs⟩ := List.exists_cons_of_ne_nil nonempty
      have listed := e.verbs.listedAs_verbs
      rw [isVerbs] at listed
      rw [ofRoute_filter own, VerbSet.names, isVerbs, text_filtered]
      have isOn : conv.routingModule ++ "::on" = "axum::routing" ++ "::" ++ "on" := by rw [routing]; rfl
      have isFilter : conv.routingModule ++ "::MethodFilter" = "axum::routing" ++ "::" ++ "MethodFilter" := by
        rw [routing]
        rfl
      have writesOn := writesItem_nameOf (by decide) isOn uses
      have writesFilter := writesItem_nameOf (by decide) isFilter (uses.nameOf (conv.routingModule ++ "::on")).2
      have writes : WritesVerbs wrapper e.verbs _ := .filter noFunction listed writesOn writesFilter
      simpa only [String.append_assoc] using writes.writesRoute (g.pathOf e)

/-- A line of the routing file determines its route. It registers the path and the verbs of the route, each verb once
    and in the fixed order, by the routing function of its verb exactly if it has one verb of those that have such
    a function; and another line for the same function, whatever has been imported before either of them, is equal
    to it only if it registers the same path and the same verbs. -/
theorem text_determines_route (routing : conv.routingModule = "axum::routing") (uses uses' : UseBlock)
    (g g' : RouteGroup) (e e' : RouteEntry) (wrapper : String) (nonempty : e.verbs.verbs ≠ [])
    (nonempty' : e'.verbs.verbs ≠ []) :
    let line := (ofRoute conv uses g e wrapper).1.text
    let line' := (ofRoute conv uses' g' e' wrapper).1.text
    WritesRoute wrapper (g.pathOf e) e.verbs line ∧ WritesRoute wrapper (g'.pathOf e') e'.verbs line' ∧
      (line = line' → g.pathOf e = g'.pathOf e' ∧ e.verbs = e'.verbs) := by
  intro line line'
  have writes : WritesRoute wrapper (g.pathOf e) e.verbs line := writesRoute_text routing uses g wrapper nonempty
  have writes' : WritesRoute wrapper (g'.pathOf e') e'.verbs line' :=
    writesRoute_text routing uses' g' wrapper nonempty'
  refine ⟨writes, writes', fun same => ?_⟩
  rw [← same] at writes'
  exact writes.unique writes'

/-- Routes of two groups have one line, where the second is written behind the first and an item of another module has
    taken the short name of the filter. -/
theorem text_determines_route_shared :
    let uses : UseBlock := ⟨["shop::MethodFilter"]⟩
    let e : RouteEntry := ⟨"Items", "list", "/b", .ofList [.put, .get], [], .void, [], true, false⟩
    let e' : RouteEntry := ⟨"Orders", "find", "a/b", .ofList [.get, .put, .get], [], .void, [], true, false⟩
    let g : RouteGroup := ⟨"Items", "a", [e]⟩
    let g' : RouteGroup := ⟨"Orders", "", [e']⟩
    let first := ofRoute .standard uses g e "items_list_0"
    let second := ofRoute .standard first.2 g' e' "items_list_0"
    first.1.text = second.1.text ∧ g.pathOf e = g'.pathOf e' ∧ e.verbs = e'.verbs := by
  intro uses e e' g g' first second
  have same : first.1.text = second.1.text := by decide +kernel
  exact ⟨same, (text_determines_route rfl uses first.2 g g' e e' "items_list_0" (by decide) (by decide)).2.2 same⟩

end Registration

end RouteScribe
