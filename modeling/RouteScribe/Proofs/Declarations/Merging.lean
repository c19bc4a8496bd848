/-
Module: RouteScribe.Proofs.Declarations.Merging
Layer: Proofs
Purpose: Putting the parts of types together loses nothing and adds nothing. The types of a list of declarations
  are told apart by their paths, stand in the order of their first parts, and say of each path what all of
  its parts say; so it does not matter whether declarations are merged at once or in two steps.
Imports: Mathlib.Data.List.Induction, Mathlib.Data.List.Nodup, RouteScribe.Program
Trusted boundary: human-reviewed spec
Main exports: partsAt, Declaration.Unites, Merges, merges_mergeParts, Program.resolve_eq_some_iff,
  foldl_mergeParts, merging_exact
Open obligations: none
-/
import Mathlib.Data.List.Induction
import Mathlib.Data.List.Nodup
import RouteScribe.Program

namespace RouteScribe

/-!
### The specification
-/

/-- The paths of a list of declarations, in order. -/
def pathsOf (ds : List Declaration) : List String := ds.map (·.path)

/-- The declarations of one path, in order. -/
def partsAt (ds : List Declaration) (path : String) : List Declaration := ds.filter (·.path == path)

/-- `d.Unites parts` says that `d` says what the parts of a type say together. -/
structure Declaration.Unites (d : Declaration) (parts : List Declaration) : Prop where
  /-- The first kind that is not a record stands, -/
  kind : d.kind = ((parts.map (·.kind)).find? (· ≠ .record)).getD .record
  isAbstract : d.isAbstract = parts.any (·.isAbstract)
  /-- as do the first parameter list that is not empty -/
  generics : d.generics = ((parts.map (·.generics)).find? (· ≠ [])).getD []
  /-- and the first base. -/
  base : d.base = parts.findSome? (·.base)
  /-- The rest adds up. -/
  attributes : d.attributes = parts.flatMap (·.attributes)
  fields : d.fields = parts.flatMap (·.fields)
  methods : d.methods = parts.flatMap (·.methods)

/-- `Merges ds types` says that `types` are the types that the declarations `ds` declare. -/
structure Merges (ds types : List Declaration) : Prop where
  /-- There is one type for each path, -/
  distinct : (pathsOf types).Nodup
  declared : ∀ path, path ∈ pathsOf types ↔ path ∈ pathsOf ds
  /-- in the order of the first parts, -/
  ordered : (pathsOf types).Pairwise fun path path' => (pathsOf ds).idxOf path < (pathsOf ds).idxOf path'
  /-- which says what the parts of its path say. -/
  unites : ∀ d ∈ types, d.Unites (partsAt ds d.path)

/-!
### One more part of a type
-/

namespace Declaration

variable {d part : Declaration} {parts : List Declaration}

/-- A type of one part says what the part says. -/
theorem unites_singleton (d : Declaration) : d.Unites [d] where
  kind := by cases kind : d.kind <;> simp [kind]
  isAbstract := by simp
  generics := by cases generics : d.generics <;> simp [generics]
  base := by cases base : d.base <;> simp [base]
  attributes := by simp
  fields := by simp
  methods := by simp

/-- A part that is absorbed is one of the parts that count, as the last one. -/
theorem Unites.absorb (unites : d.Unites parts) (part : Declaration) :
    (d.absorb part).Unites (parts ++ [part]) where
  kind := by
    have known := unites.kind
    simp only [Declaration.absorb, List.map_append, List.find?_append]
    cases first : (parts.map (·.kind)).find? (· ≠ .record) with
    | none =>
        rw [first] at known
        cases kind : part.kind <;> simp_all
    | some kind =>
        have other : kind ≠ .record := by simpa using List.find?_some first
        rw [first] at known
        simp_all
  isAbstract := by simp [Declaration.absorb, unites.isAbstract]
  generics := by
    have known := unites.generics
    simp only [Declaration.absorb, List.map_append, List.find?_append]
    cases first : (parts.map (·.generics)).find? (· ≠ []) with
    | none =>
        rw [first] at known
        cases generics : part.generics <;> simp_all
    | some generics =>
        have other : generics ≠ [] := by simpa using List.find?_some first
        rw [first] at known
        simp_all
  base := by
    rw [List.findSome?_append, ← unites.base]
    cases base : d.base <;> cases partBase : part.base <;> simp [Declaration.absorb, base, partBase]
  attributes := by simp [Declaration.absorb, unites.attributes]
  fields := by simp [Declaration.absorb, unites.fields]
  methods := by simp [Declaration.absorb, unites.methods]

/-- The parts of a type say all that the type says, its path apart. -/
theorem Unites.unique {e : Declaration} (unites : d.Unites parts) (unites' : e.Unites parts)
    (same : d.path = e.path) : d = e := by
  rw [Declaration.mk.injEq]
  refine ⟨same, ?_, ?_, ?_, ?_, ?_, ?_, ?_⟩
  · rw [unites.kind, unites'.kind]
  · rw [unites.isAbstract, unites'.isAbstract]
  · rw [unites.generics, unites'.generics]
  · rw [unites.base, unites'.base]
  · rw [unites.attributes, unites'.attributes]
  · rw [unites.fields, unites'.fields]
  · rw [unites.methods, unites'.methods]

@[simp] theorem path_absorb (d part : Declaration) : (d.absorb part).path = d.path := rfl

/-- It does not matter which of three parts are put together first. -/
theorem absorb_assoc (d e f : Declaration) : (d.absorb e).absorb f = d.absorb (e.absorb f) := by
  simp only [absorb, Bool.or_assoc, List.append_assoc, mk.injEq, true_and, and_true]
  refine ⟨?_, ?_, ?_⟩
  · by_cases record : d.kind = .record <;> simp [record]
  · by_cases none : d.generics.isEmpty = true <;> simp [none]
  · by_cases none : d.base.isNone = true <;> simp [none]

end Declaration

/-!
### One more declaration
-/

section

variable {ds types known : List Declaration} {d : Declaration}

theorem pathsOf_append (ds es : List Declaration) : pathsOf (ds ++ es) = pathsOf ds ++ pathsOf es :=
  List.map_append

theorem mem_pathsOf_of_mem (mem : d ∈ ds) : d.path ∈ pathsOf ds := List.mem_map_of_mem mem

/-- A declaration is a new type at the end, or a part of the first type of its path. -/
theorem absorbPart_cases (known : List Declaration) (d : Declaration) :
    (d.path ∉ pathsOf known ∧ absorbPart known d = known ++ [d]) ∨
      ∃ before e after, known = before ++ e :: after ∧ e.path = d.path ∧
        absorbPart known d = before ++ e.absorb d :: after := by
  induction known with
  | nil => exact Or.inl ⟨by simp [pathsOf], rfl⟩
  | cons first rest ih =>
      rw [absorbPart]
      by_cases same : first.path = d.path
      · rw [if_pos same]
        exact Or.inr ⟨[], first, rest, rfl, same, rfl⟩
      · rw [if_neg same]
        rcases ih with ⟨new, appended⟩ | ⟨before, e, after, split, isPath, absorbed⟩
        · refine Or.inl ⟨?_, by rw [appended, List.cons_append]⟩
          simpa [pathsOf, Ne.symm same] using new
        · exact Or.inr ⟨first :: before, e, after, by rw [split, List.cons_append], isPath,
            by rw [absorbed, List.cons_append]⟩

/-- Only a new type adds a path. -/
theorem pathsOf_absorbPart (known : List Declaration) (d : Declaration) :
    pathsOf (absorbPart known d) =
      if d.path ∈ pathsOf known then pathsOf known else pathsOf known ++ [d.path] := by
  rcases absorbPart_cases known d with ⟨new, appended⟩ | ⟨before, e, after, rfl, isPath, absorbed⟩
  · rw [appended, if_neg new, pathsOf_append]
    rfl
  · rw [absorbed, if_pos (by simp [pathsOf, isPath])]
    simp [pathsOf]

theorem partsAt_append (ds : List Declaration) (d : Declaration) (path : String) :
    partsAt (ds ++ [d]) path = partsAt ds path ++ if d.path = path then [d] else [] := by
  simp [partsAt, List.filter_append, List.filter_cons]

theorem partsAt_eq_nil {path : String} (new : path ∉ pathsOf ds) : partsAt ds path = [] := by
  refine List.filter_eq_nil_iff.mpr fun d mem same => new ?_
  rw [← beq_iff_eq.mp same]
  exact mem_pathsOf_of_mem mem

/-- One more declaration makes a part of its type count and leaves all other types as they are. -/
theorem Merges.absorbPart (merges : Merges ds types) (d : Declaration) :
    Merges (ds ++ [d]) (absorbPart types d) := by
  have paths := pathsOf_absorbPart types d
  have idxOf_append {path : String} (mem : path ∈ pathsOf types) :
      (pathsOf (ds ++ [d])).idxOf path = (pathsOf ds).idxOf path := by
    rw [pathsOf_append, List.idxOf_append_of_mem ((merges.declared path).mp mem)]
  have orderedBefore : (pathsOf types).Pairwise fun path path' =>
      (pathsOf (ds ++ [d])).idxOf path < (pathsOf (ds ++ [d])).idxOf path' := by
    refine merges.ordered.imp_of_mem fun mem mem' less => ?_
    rwa [idxOf_append mem, idxOf_append mem']
  have others {e : Declaration} (mem : e ∈ types) (other : e.path ≠ d.path) :
      e.Unites (partsAt (ds ++ [d]) e.path) := by
    rw [partsAt_append, if_neg (Ne.symm other), List.append_nil]
    exact merges.unites e mem
  rcases absorbPart_cases types d with ⟨new, appended⟩ | ⟨before, e, after, split, isPath, absorbed⟩
  -- the first declaration of its path
  · rw [if_neg new] at paths
    have newPath : d.path ∉ pathsOf ds := mt (merges.declared d.path).mpr new
    refine ⟨?_, ?_, ?_, ?_⟩
    · rw [paths]
      exact merges.distinct.append (List.nodup_singleton _) (by simpa using new)
    · intro path
      rw [paths, pathsOf_append, List.mem_append, List.mem_append, merges.declared path]
      rfl
    · rw [paths, List.pairwise_append]
      refine ⟨orderedBefore, List.pairwise_singleton _ _, fun path mem path' last => ?_⟩
      rw [List.mem_singleton.mp last, idxOf_append mem, pathsOf_append, List.idxOf_append_of_notMem newPath]
      have bound := List.idxOf_lt_length_of_mem ((merges.declared path).mp mem)
      omega
    · rw [appended]
      intro e mem
      rcases List.mem_append.mp mem with mem | mem
      · exact others mem fun same => new (same ▸ mem_pathsOf_of_mem mem)
      · rw [List.mem_singleton.mp mem, partsAt_append, if_pos rfl, partsAt_eq_nil newPath]
        exact Declaration.unites_singleton d
  -- a further declaration of the type `e`
  · have known : d.path ∈ pathsOf types := by
      rw [split, ← isPath]
      exact mem_pathsOf_of_mem (by simp)
    rw [if_pos known] at paths
    refine ⟨?_, ?_, ?_, ?_⟩
    · rw [paths]
      exact merges.distinct
    · intro path
      rw [paths, pathsOf_append, List.mem_append, merges.declared path]
      refine ⟨Or.inl, ?_⟩
      rintro (mem | last)
      · exact mem
      · rw [List.mem_singleton.mp last]
        exact (merges.declared d.path).mp known
    · rw [paths]
      exact orderedBefore
    · have distinct := merges.distinct
      rw [split, pathsOf_append, List.nodup_append] at distinct
      obtain ⟨-, distinctAfter, apart⟩ := distinct
      have notAfter : e.path ∉ pathsOf after := (List.nodup_cons.mp distinctAfter).1
      rw [absorbed]
      intro f mem
      rcases List.mem_append.mp mem with mem | mem
      · refine others (split ▸ List.mem_append_left _ mem) fun same => ?_
        exact apart _ (mem_pathsOf_of_mem mem) e.path (by simp [pathsOf]) (same.trans isPath.symm)
      · rcases List.mem_cons.mp mem with rfl | mem
        · rw [Declaration.path_absorb, partsAt_append, if_pos isPath.symm]
          exact (merges.unites e (split ▸ by simp)).absorb d
        · refine others (split ▸ List.mem_append_right _ (List.mem_cons_of_mem _ mem)) fun same => ?_
          exact notAfter (isPath.trans same.symm ▸ mem_pathsOf_of_mem mem)

end

/-- Merging gives the types that are declared. -/
theorem merges_mergeParts (ds : List Declaration) : Merges ds (mergeParts ds) := by
  induction ds using List.reverseRecOn with
  | nil => exact ⟨List.nodup_nil, fun _ => Iff.rfl, .nil, nofun⟩
  | append_singleton ds d ih =>
      rw [mergeParts, List.foldl_append, ← mergeParts]
      exact ih.absorbPart d

/-!
### Resolving paths
-/

section

variable {ds : List Declaration} {path : String} {d : Declaration}

theorem Program.resolve_eq_some_iff :
    (Program.ofDeclarations ds).resolve path = some d ↔
      d ∈ (Program.ofDeclarations ds).types ∧ d.path = path := by
  refine ⟨Program.resolve_some, ?_⟩
  rintro ⟨mem, rfl⟩
  cases found : (Program.ofDeclarations ds).resolve d.path with
  | none =>
      have differs := List.find?_eq_none.mp found d mem
      simp at differs
  | some e =>
      obtain ⟨mem', same⟩ := Program.resolve_some found
      rw [List.inj_on_of_nodup_map (merges_mergeParts ds).distinct mem' mem same]

theorem Program.resolve_eq_none_iff :
    (Program.ofDeclarations ds).resolve path = none ↔ path ∉ pathsOf ds := by
  rw [← (merges_mergeParts ds).declared path, Program.resolve, List.find?_eq_none]
  simp [pathsOf, Program.ofDeclarations]

end

/-!
### Merging in steps
-/

section

variable {known types : List Declaration} {d e : Declaration}

/-- Two parts of one path can be absorbed at once. -/
theorem absorbPart_absorb (known : List Declaration) (same : e.path = d.path) :
    absorbPart (absorbPart known d) e = absorbPart known (d.absorb e) := by
  induction known with
  | nil => simp [absorbPart, same]
  | cons first rest ih =>
      by_cases isPath : first.path = d.path
      · simp [absorbPart, isPath, same, Declaration.absorb_assoc]
      · simp [absorbPart, isPath, same, ih]

/-- Parts of two types can be absorbed in any order, if the one that comes later has its place already. -/
theorem absorbPart_comm (other : d.path ≠ e.path) (mem : d.path ∈ pathsOf known) :
    absorbPart (absorbPart known e) d = absorbPart (absorbPart known d) e := by
  induction known with
  | nil => cases mem
  | cons first rest ih =>
      by_cases isPath : first.path = d.path
      · have notOther : first.path ≠ e.path := fun same => other (isPath.symm.trans same)
        simp [absorbPart, isPath, other]
      · have rest : d.path ∈ pathsOf rest := by simpa [pathsOf, Ne.symm isPath] using mem
        by_cases isOther : first.path = e.path
        · simp [absorbPart, isOther, Ne.symm other]
        · simp [absorbPart, isPath, isOther, ih rest]

theorem mem_pathsOf_absorbPart (known : List Declaration) (d : Declaration) :
    ∀ path ∈ pathsOf known, path ∈ pathsOf (absorbPart known d) := by
  intro path mem
  rw [pathsOf_absorbPart]
  split
  · exact mem
  · exact List.mem_append_left _ mem

/-- A part of a type that has its place can be absorbed before or after the types of other paths. -/
theorem foldl_absorbPart_comm (types : List Declaration) (mem : d.path ∈ pathsOf known)
    (others : d.path ∉ pathsOf types) :
    types.foldl absorbPart (absorbPart known d) = absorbPart (types.foldl absorbPart known) d := by
  induction types generalizing known with
  | nil => rfl
  | cons e types ih =>
      have apart : d.path ≠ e.path ∧ d.path ∉ pathsOf types := by simpa [pathsOf] using others
      rw [List.foldl_cons, List.foldl_cons, ← absorbPart_comm apart.1 mem]
      exact ih (mem_pathsOf_absorbPart known e _ mem) apart.2

/-- Absorbing types with one more part is absorbing the types and then the part. -/
theorem foldl_absorbPart (known : List Declaration) (distinct : (pathsOf types).Nodup) (d : Declaration) :
    (absorbPart types d).foldl absorbPart known = absorbPart (types.foldl absorbPart known) d := by
  induction types generalizing known with
  | nil => rfl
  | cons e types ih =>
      obtain ⟨new, distinct⟩ := List.nodup_cons.mp distinct
      by_cases same : e.path = d.path
      · have placed : d.path ∈ pathsOf (absorbPart known e) := by
          rw [pathsOf_absorbPart]
          split
          · rwa [← same]
          · simp [same]
        rw [absorbPart, if_pos same, List.foldl_cons, List.foldl_cons, ← absorbPart_absorb known same.symm]
        exact foldl_absorbPart_comm types placed (same ▸ new)
      · rw [absorbPart, if_neg same, List.foldl_cons, List.foldl_cons]
        exact ih _ distinct

/-- Absorbing the types of some declarations is absorbing the declarations. -/
theorem foldl_mergeParts (known ds : List Declaration) :
    (mergeParts ds).foldl absorbPart known = ds.foldl absorbPart known := by
  induction ds using List.reverseRecOn with
  | nil => rfl
  | append_singleton ds d ih =>
      have last : mergeParts (ds ++ [d]) = absorbPart (mergeParts ds) d := by
        rw [mergeParts, List.foldl_append, ← mergeParts]
        rfl
      rw [last, foldl_absorbPart known (merges_mergeParts ds).distinct, ih, List.foldl_append]
      rfl

end

/-- The types of a program are those that it declares, a path leads to the type that it names, and types that
    were merged before are merged like the declarations that they were made from. -/
theorem merging_exact (ds others : List Declaration) :
    Merges ds (Program.ofDeclarations ds).types ∧
      (∀ path d, (Program.ofDeclarations ds).resolve path = some d ↔
        d ∈ (Program.ofDeclarations ds).types ∧ d.path = path) ∧
      (∀ path, (Program.ofDeclarations ds).resolve path = none ↔ path ∉ pathsOf ds) ∧
      (Program.ofDeclarations
          ((Program.ofDeclarations ds).types ++ (Program.ofDeclarations others).types)).types =
        (Program.ofDeclarations (ds ++ others)).types := by
  refine ⟨merges_mergeParts ds, fun _ _ => Program.resolve_eq_some_iff,
    fun _ => Program.resolve_eq_none_iff, ?_⟩
  calc mergeParts (mergeParts ds ++ mergeParts others)
      = (mergeParts others).foldl absorbPart ((mergeParts ds).foldl absorbPart []) := List.foldl_append
    _ = others.foldl absorbPart (ds.foldl absorbPart []) := by rw [foldl_mergeParts, foldl_mergeParts]
    _ = mergeParts (ds ++ others) := List.foldl_append.symm

end RouteScribe
