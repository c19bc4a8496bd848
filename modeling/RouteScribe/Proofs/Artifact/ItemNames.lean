/-
Module: RouteScribe.Proofs.Artifact.ItemNames
Layer: Proofs
Purpose: The names under which an artifact writes its items. Imports are only ever added, and a name that was given
  stays right whatever is imported after it. So one block, the one that the artifact ends with, accounts for
  all names and all types in it. In that block two items share a name only if one of them is a path of one
  segment that an import of the other hides.
Imports: Mathlib.Tactic, RouteScribe.Artifact.SchemaRegistry, RouteScribe.TypeGraph
Trusted boundary: human-reviewed spec
Main exports: TypeExpr.rename, TypeExpr.paths, UseBlock.nameIn, UseBlock.nameOf_of_grows, UseBlock.fst_spell,
  UseBlock.Hides, UseBlock.nameIn_eq_iff, UseBlock.itemNamed?_after, NameRequest, UseBlock.answerAll,
  UseBlock.fst_answerAll, SchemaRegistry.types_ofTypes
Open obligations: none
-/
import Mathlib.Tactic
import RouteScribe.Artifact.SchemaRegistry
import RouteScribe.TypeGraph

namespace RouteScribe

/-!
### Last segments
-/

namespace ItemPath

theorem hasSeparator_iff {cs : List Char} : hasSeparator cs = true ↔ [':', ':'] <:+: cs := by
  fun_induction hasSeparator cs with
  | case1 cs => exact iff_of_true rfl ⟨[], cs, rfl⟩
  | case2 c cs other ih =>
      rw [List.infix_cons_iff, ih]
      refine ⟨Or.inr, fun found => found.resolve_left ?_⟩
      rintro ⟨rest, same⟩
      cases same
      exact other rest rfl rfl
  | case3 => simp

theorem beforeSeparator_front (cs : List Char) : beforeSeparator cs <+: cs := by
  fun_induction beforeSeparator cs with
  | case1 => exact List.nil_prefix
  | case2 c cs _ ih => exact (List.cons_prefix_cons).mpr ⟨rfl, ih⟩
  | case3 => exact List.prefix_rfl

theorem hasSeparator_beforeSeparator (cs : List Char) : hasSeparator (beforeSeparator cs) = false := by
  rw [Bool.eq_false_iff, ne_eq, hasSeparator_iff]
  fun_induction beforeSeparator cs with
  | case1 => simp
  | case2 c cs other ih =>
      rw [List.infix_cons_iff]
      rintro (front | inside)
      · obtain ⟨rest, same⟩ := front.trans (List.cons_prefix_cons.mpr ⟨rfl, beforeSeparator_front cs⟩)
        cases same
        exact other rest rfl rfl
      · exact ih inside
  | case3 => simp

/-- A last segment is a single segment. -/
theorem isQualified_lastSegment (path : String) : isQualified (lastSegment path) = false := by
  have plain := hasSeparator_beforeSeparator path.toList.reverse
  rw [Bool.eq_false_iff, ne_eq, hasSeparator_iff] at plain
  rw [Bool.eq_false_iff, ne_eq, isQualified, hasSeparator_iff]
  intro found
  refine plain (List.reverse_infix.mp ?_)
  simpa [lastSegment] using found

theorem beforeSeparator_of_notMem {cs rest : List Char} (noColon : ':' ∉ cs) :
    beforeSeparator (cs ++ ':' :: ':' :: rest) = cs ∧ beforeSeparator cs = cs := by
  induction cs with
  | nil => exact ⟨rfl, rfl⟩
  | cons c cs ih =>
      obtain ⟨differs, noColon⟩ := List.ne_and_not_mem_of_not_mem_cons noColon
      obtain ⟨cut, whole⟩ := ih noColon
      constructor
      · rw [List.cons_append, beforeSeparator, cut]
        intro _ isColon
        exact absurd isColon.symm differs
      · rw [beforeSeparator, whole]
        intro _ isColon
        exact absurd isColon.symm differs

/-- Behind the last double colon nothing is cut off. -/
theorem lastSegment_of_notMem {path name : String} {front : List Char} (noColon : ':' ∉ name.toList)
    (ends : path = name ∨ path.toList = front ++ ':' :: ':' :: name.toList) : lastSegment path = name := by
  have reversed : ':' ∉ name.toList.reverse := by simpa using noColon
  rw [lastSegment]
  rcases ends with rfl | chars
  · rw [(@beforeSeparator_of_notMem _ [] reversed).2]
    simp
  · rw [chars, List.reverse_append, List.reverse_cons, List.reverse_cons, List.append_assoc, List.append_assoc]
    rw [List.singleton_append, List.singleton_append, (beforeSeparator_of_notMem reversed).1]
    simp

end ItemPath

/-!
### Types under other names
-/

namespace TypeExpr

mutual

/-- A type with other names for its items. A placeholder is written like an item of its name, and a type that
    could not be resolved like an item with the name of an open place. -/
def rename (names : String → String) : TypeExpr → TypeExpr
  | .named path args => .named (names path) (renameArgs names args)
  | .array element => .array (rename names element)
  | .optional inner => .optional (rename names inner)
  | .param name => .named name []
  | .unresolved => .named "_" []

/-- Argument types with other names for their items. -/
def renameArgs (names : String → String) : List TypeExpr → List TypeExpr
  | [] => []
  | arg :: args => rename names arg :: renameArgs names args

end

/-- The items in a type, in the order in which they are written. -/
def paths (t : TypeExpr) : List String := t.parts.filterMap path?

/-- The items in a list of types. -/
def pathsOf (ts : List TypeExpr) : List String := (partsOf ts).filterMap path?

variable {path name : String} {t : TypeExpr} {args : List TypeExpr}

@[simp] theorem paths_named : paths (.named path args) = path :: pathsOf args := by
  simp [paths, pathsOf, parts, path?]

@[simp] theorem paths_array : paths (.array t) = paths t := by
  rw [paths, parts, List.filterMap_cons_none rfl, ← paths]

@[simp] theorem paths_optional : paths (.optional t) = paths t := by
  rw [paths, parts, List.filterMap_cons_none rfl, ← paths]

@[simp] theorem paths_param : paths (.param name) = [] := by simp [paths, parts, path?]

@[simp] theorem paths_unresolved : paths .unresolved = [] := by simp [paths, parts, path?]

@[simp] theorem pathsOf_nil : pathsOf [] = [] := rfl

@[simp] theorem pathsOf_cons : pathsOf (t :: args) = paths t ++ pathsOf args := by
  simp [pathsOf, paths, partsOf]

end TypeExpr

namespace UseBlock

open ItemPath (isQualified lastSegment)

/-!
### One name
-/

/-- Whether an item can be imported at all. -/
def Importable (path : String) : Prop := isQualified path = true ∧ lastSegment path ∉ reservedNames

instance : DecidablePred Importable := fun _ => inferInstanceAs (Decidable (_ ∧ _))

/-- The name of an item in a block. -/
def nameIn (b : UseBlock) (path : String) : String := (b.nameOf path).1

/-- The block after items have been named, one after the other. -/
def after (b : UseBlock) (paths : List String) : UseBlock := paths.foldl (fun b path => (b.nameOf path).2) b

variable {b b' : UseBlock} {path item : String}

theorem nameOf_plain (plain : ¬ Importable path) : b.nameOf path = (path, b) := by
  rw [nameOf]
  by_cases qualified : isQualified path = true
  · have reserved : lastSegment path ∈ reservedNames := by
      by_contra free
      exact plain ⟨qualified, free⟩
    simp [qualified, reserved]
  · simp [qualified]

theorem nameOf_first (importable : Importable path) (free : b.itemNamed? (lastSegment path) = none) :
    b.nameOf path = (lastSegment path, ⟨b.imported ++ [path]⟩) := by
  simp [nameOf, importable.1, importable.2, free]

theorem nameOf_taken (importable : Importable path) (taken : b.itemNamed? (lastSegment path) = some item) :
    b.nameOf path = (if item = path then lastSegment path else path, b) := by
  simp [nameOf, importable.1, importable.2, taken]

/-- An item that is found for a last segment is imported and has that last segment. -/
theorem itemNamed?_some {short : String} (found : b.itemNamed? short = some item) :
    item ∈ b.imported ∧ lastSegment item = short :=
  ⟨List.mem_of_find?_eq_some found, by simpa using List.find?_some found⟩

/-- Later imports leave the item of a last segment what it is. -/
theorem itemNamed?_of_grows {short : String} (grows : b.imported <+: b'.imported)
    (found : b.itemNamed? short = some item) : b'.itemNamed? short = some item := by
  obtain ⟨more, same⟩ := grows
  rw [itemNamed?, ← same, List.find?_append, ← itemNamed?, found, Option.some_or]

theorem itemNamed?_append_self (free : b.itemNamed? (lastSegment path) = none) :
    itemNamed? ⟨b.imported ++ [path]⟩ (lastSegment path) = some path := by
  rw [itemNamed?, List.find?_append, ← itemNamed?, free]
  simp

theorem grows_nameOf (b : UseBlock) (path : String) : b.imported <+: (b.nameOf path).2.imported := by
  by_cases importable : Importable path
  · cases found : b.itemNamed? (lastSegment path) with
    | none =>
        rw [nameOf_first importable found]
        exact List.prefix_append _ _
    | some item => rw [nameOf_taken importable found]
  · rw [nameOf_plain importable]

/-- A name that was given is given again by every later block, which it leaves as it is. -/
theorem nameOf_of_grows (grows : (b.nameOf path).2.imported <+: b'.imported) :
    b'.nameOf path = (b.nameIn path, b') := by
  rw [nameIn]
  by_cases importable : Importable path
  · cases found : b.itemNamed? (lastSegment path) with
    | none =>
        rw [nameOf_first importable found] at grows ⊢
        rw [nameOf_taken importable (itemNamed?_of_grows grows (itemNamed?_append_self found)), if_pos rfl]
    | some item =>
        rw [nameOf_taken importable found] at grows ⊢
        rw [nameOf_taken importable (itemNamed?_of_grows grows found)]
  · rw [nameOf_plain importable, nameOf_plain importable]

/-- An item is written by its path or, if it can be imported, by its last segment. -/
theorem nameIn_cases (b : UseBlock) (path : String) :
    b.nameIn path = path ∨ Importable path ∧ b.nameIn path = lastSegment path := by
  rw [nameIn]
  by_cases importable : Importable path
  · cases found : b.itemNamed? (lastSegment path) with
    | none =>
        rw [nameOf_first importable found]
        exact Or.inr ⟨importable, rfl⟩
    | some item =>
        rw [nameOf_taken importable found]
        by_cases same : item = path
        · exact Or.inr ⟨importable, if_pos same⟩
        · exact Or.inl (if_neg same)
  · rw [nameOf_plain importable]
    exact Or.inl rfl

/-!
### All names of an artifact
-/

theorem after_cons {paths : List String} : b.after (path :: paths) = (b.nameOf path).2.after paths := rfl

theorem after_append {paths paths' : List String} :
    b.after (paths ++ paths') = (b.after paths).after paths' :=
  List.foldl_append

theorem grows_after (b : UseBlock) (paths : List String) :
    b.imported <+: (b.after paths).imported := by
  induction paths generalizing b with
  | nil => exact List.prefix_rfl
  | cons path paths ih => exact (b.grows_nameOf path).trans (ih _)

/-- Every item that was named has its name in the block at the end. -/
theorem nameOf_of_mem {paths : List String} (mem : path ∈ paths)
    (grows : (b.after paths).imported <+: b'.imported) : b'.nameOf path = (b'.nameIn path, b') := by
  induction paths generalizing b with
  | nil => cases mem
  | cons first paths ih =>
      rcases List.mem_cons.mp mem with rfl | mem
      · rw [nameIn, nameOf_of_grows ((grows_after _ paths).trans grows)]
      · exact ih mem grows

mutual

/-- Writing a type names its items, in their order, -/
theorem snd_spell (b : UseBlock) (t : TypeExpr) : (b.spell t).2 = b.after t.paths := by
  cases t with
  | named path args =>
      cases args with
      | nil => simp [spell, after]
      | cons arg args =>
          rw [spell, TypeExpr.paths_named, TypeExpr.pathsOf_cons, after_cons, after_append]
          rw [← snd_spell _ arg, ← snd_spellArgs _ args]
  | array element => simpa [spell] using snd_spell b element
  | optional inner => simpa [spell] using snd_spell b inner
  | param name => simp [spell, after]
  | unresolved => simp [spell, after]

theorem snd_spellArgs (b : UseBlock) (args : List TypeExpr) :
    (b.spellArgs args).2 = b.after (TypeExpr.pathsOf args) := by
  cases args with
  | nil => rfl
  | cons arg args =>
      rw [spellArgs, TypeExpr.pathsOf_cons, after_append, ← snd_spell _ arg, ← snd_spellArgs _ args]

end

theorem grows_spell (b : UseBlock) (t : TypeExpr) : b.imported <+: (b.spell t).2.imported := by
  rw [snd_spell]
  exact grows_after b _

theorem grows_spellArgs (b : UseBlock) (args : List TypeExpr) :
    b.imported <+: (b.spellArgs args).2.imported := by
  rw [snd_spellArgs]
  exact grows_after b _

mutual

/-- and it gives the text of the type under the names of any later block. -/
theorem fst_spell (b : UseBlock) (t : TypeExpr) (grows : (b.spell t).2.imported <+: b'.imported) :
    (b.spell t).1 = (t.rename b'.nameIn).text := by
  cases t with
  | named path args =>
      have named (grown : (b.nameOf path).2.imported <+: b'.imported) : (b.nameOf path).1 = b'.nameIn path :=
        (congrArg Prod.fst (nameOf_of_grows grown)).symm
      cases args with
      | nil => exact named grows
      | cons arg args =>
          rw [spell] at grows
          have behind := (grows_spellArgs _ args).trans grows
          have name := named ((grows_spell _ arg).trans behind)
          have first := fst_spell _ arg behind
          have others := fst_spellArgs _ args grows
          simp only [spell, TypeExpr.rename, TypeExpr.renameArgs, TypeExpr.text, name, first, others]
  | array element =>
      have inner := fst_spell b element grows
      simp only [spell, TypeExpr.rename, TypeExpr.text, inner]
  | optional inner =>
      have inner := fst_spell b inner grows
      simp only [spell, TypeExpr.rename, TypeExpr.text, inner]
  | param name => rfl
  | unresolved => rfl

theorem fst_spellArgs (b : UseBlock) (args : List TypeExpr)
    (grows : (b.spellArgs args).2.imported <+: b'.imported) :
    (b.spellArgs args).1 = TypeExpr.argsText (TypeExpr.renameArgs b'.nameIn args) := by
  cases args with
  | nil => rfl
  | cons arg args =>
      have first := fst_spell _ arg ((grows_spellArgs _ args).trans grows)
      have others := fst_spellArgs _ args grows
      simp only [spellArgs, TypeExpr.renameArgs, TypeExpr.argsText, first, others]

end

/-!
### Names in common
-/

/-- Whether every imported item can be imported and is the one of its last segment. -/
def Tidy (b : UseBlock) : Prop :=
  ∀ path ∈ b.imported, Importable path ∧ b.itemNamed? (lastSegment path) = some path

theorem Tidy.nameOf (tidy : b.Tidy) (path : String) : (b.nameOf path).2.Tidy := by
  by_cases importable : Importable path
  · cases found : b.itemNamed? (lastSegment path) with
    | none =>
        rw [nameOf_first importable found]
        intro item mem
        rcases List.mem_append.mp mem with old | new
        · obtain ⟨itemImportable, isItem⟩ := tidy item old
          exact ⟨itemImportable, itemNamed?_of_grows (List.prefix_append _ _) isItem⟩
        · rw [List.mem_singleton.mp new]
          exact ⟨importable, itemNamed?_append_self found⟩
    | some item =>
        rw [nameOf_taken importable found]
        exact tidy
  · rw [nameOf_plain importable]
    exact tidy

theorem tidy_after (paths : List String) : (empty.after paths).Tidy := by
  have steps (b : UseBlock) (tidy : b.Tidy) : (b.after paths).Tidy := by
    induction paths generalizing b with
    | nil => exact tidy
    | cons path paths ih => exact ih _ (tidy.nameOf path)
  exact steps empty fun _ mem => absurd mem List.not_mem_nil

theorem Tidy.itemNamed?_iff {short : String} (tidy : b.Tidy) :
    b.itemNamed? short = some path ↔ path ∈ b.imported ∧ lastSegment path = short := by
  refine ⟨itemNamed?_some, ?_⟩
  rintro ⟨mem, rfl⟩
  exact (tidy path mem).2

/-- The item of a last segment is the first one that could be imported, if there was none before. -/
theorem itemNamed?_after (b : UseBlock) (paths : List String) (short : String) :
    (b.after paths).itemNamed? short =
      (b.itemNamed? short).or (paths.find? fun path => Importable path ∧ lastSegment path = short) := by
  induction paths generalizing b with
  | nil => simp [after]
  | cons path paths ih =>
      rw [after_cons, ih, List.find?_cons]
      by_cases importable : Importable path
      · cases found : b.itemNamed? (lastSegment path) with
        | none =>
            rw [nameOf_first importable found]
            by_cases same : lastSegment path = short
            · subst same
              simp [itemNamed?_append_self found, found, importable]
            · have others : itemNamed? ⟨b.imported ++ [path]⟩ short = b.itemNamed? short := by
                simp [itemNamed?, List.find?_append, same]
              simp [others, same]
        | some item =>
            rw [nameOf_taken importable found]
            by_cases same : lastSegment path = short
            · subst same
              simp [found]
            · simp [same]
      · simp [nameOf_plain importable, importable]

/-- An imported item is written by its last segment. -/
theorem Tidy.nameIn_of_mem (tidy : b.Tidy) (mem : path ∈ b.imported) : b.nameIn path = lastSegment path := by
  obtain ⟨importable, isItem⟩ := tidy path mem
  rw [nameIn, nameOf_taken importable isItem, if_pos rfl]

/-- An item that was named and is not imported is written by its path. -/
theorem nameIn_of_notMem (named : b.nameOf path = (b.nameIn path, b)) (notMem : path ∉ b.imported) :
    b.nameIn path = path := by
  rcases b.nameIn_cases path with whole | ⟨importable, -⟩
  · exact whole
  · cases found : b.itemNamed? (lastSegment path) with
    | none =>
        rw [nameOf_first importable found] at named
        have grown := congrArg (fun result => result.2.imported.length) named
        simp at grown
    | some item =>
        rw [nameIn, nameOf_taken importable found, if_neg]
        intro same
        exact notMem (same ▸ (itemNamed?_some found).1)

/-- `b.Hides bare path` says that the block imports `path` under the name that the path `bare`, of one segment,
    is always written by. -/
def Hides (b : UseBlock) (bare path : String) : Prop := path ∈ b.imported ∧ lastSegment path = bare

/-- A path of one segment is not imported itself. -/
theorem Tidy.not_hides (tidy : b.Tidy) {bare : String} (mem : bare ∈ b.imported) (path : String) :
    ¬ b.Hides bare path := by
  intro hides
  have qualified := (tidy bare mem).1.1
  rw [← hides.2, ItemPath.isQualified_lastSegment] at qualified
  cases qualified

/-- Imported items have names of their own. -/
theorem Tidy.nameIn_inj {path' : String} (tidy : b.Tidy) (mem : path ∈ b.imported) (mem' : path' ∈ b.imported) :
    b.nameIn path = b.nameIn path' ↔ path = path' := by
  constructor
  · intro same
    rw [tidy.nameIn_of_mem mem, tidy.nameIn_of_mem mem'] at same
    have item := (tidy path mem).2
    rw [same, (tidy path' mem').2] at item
    exact (Option.some.inj item).symm
  · intro same
    rw [same]

/-- An item that is not imported shares its name with an imported one only if it is hidden. -/
theorem Tidy.nameIn_eq_iff_hides {path' : String} (tidy : b.Tidy) (named : b.nameOf path = (b.nameIn path, b))
    (notMem : path ∉ b.imported) (mem : path' ∈ b.imported) :
    b.nameIn path = b.nameIn path' ↔ b.Hides path path' := by
  rw [tidy.nameIn_of_mem mem, nameIn_of_notMem named notMem]
  constructor
  · intro same
    exact ⟨mem, same.symm⟩
  · intro hides
    exact hides.2.symm

/-- Two items that were named share a name only if they are the same or the import of one hides the other. -/
theorem nameIn_eq_iff {path path' : String} (tidy : b.Tidy) (named : b.nameOf path = (b.nameIn path, b))
    (named' : b.nameOf path' = (b.nameIn path', b)) :
    b.nameIn path = b.nameIn path' ↔ path = path' ∨ b.Hides path path' ∨ b.Hides path' path := by
  -- nothing is hidden by an item that is not imported
  have idle {bare path : String} (notMem : path ∉ b.imported) : ¬ b.Hides bare path := fun hides => notMem hides.1
  by_cases mem : path ∈ b.imported <;> by_cases mem' : path' ∈ b.imported
  · rw [tidy.nameIn_inj mem mem']
    simp [tidy.not_hides mem, tidy.not_hides mem']
  · have differ : path ≠ path' := fun same => mem' (same ▸ mem)
    rw [eq_comm, tidy.nameIn_eq_iff_hides named' mem' mem]
    simp [differ, idle mem']
  · have differ : path ≠ path' := fun same => mem (same ▸ mem')
    rw [tidy.nameIn_eq_iff_hides named mem mem']
    simp [differ, idle mem]
  · rw [nameIn_of_notMem named mem, nameIn_of_notMem named' mem']
    simp [idle mem, idle mem']

end UseBlock

/-!
### Requests
-/

/-- What an artifact asks of its imports: the name of an item, or the text of a type. -/
inductive NameRequest where
  | item (path : String)
  | type (t : TypeExpr)
deriving DecidableEq, Repr

namespace NameRequest

/-- The items that a request names. -/
def paths : NameRequest → List String
  | .item path => [path]
  | .type t => t.paths

/-- The answer to a request under the names of a block. -/
def writtenIn (b : UseBlock) : NameRequest → String
  | .item path => b.nameIn path
  | .type t => (t.rename b.nameIn).text

end NameRequest

namespace UseBlock

/-- Answer a request. -/
def answer (b : UseBlock) : NameRequest → String × UseBlock
  | .item path => b.nameOf path
  | .type t => b.spell t

/-- Answer requests, one after the other. -/
def answerAll (b : UseBlock) : List NameRequest → List String × UseBlock
  | [] => ([], b)
  | request :: requests =>
    let (first, b) := b.answer request
    let (rest, b) := b.answerAll requests
    (first :: rest, b)

variable {b b' : UseBlock}

theorem snd_answer (b : UseBlock) (request : NameRequest) : (b.answer request).2 = b.after request.paths := by
  cases request with
  | item path => rfl
  | type t => exact b.snd_spell t

theorem fst_answer {request : NameRequest} (grows : (b.answer request).2.imported <+: b'.imported) :
    (b.answer request).1 = request.writtenIn b' := by
  cases request with
  | item path => exact (congrArg Prod.fst (nameOf_of_grows grows)).symm
  | type t => exact fst_spell b t grows

theorem snd_answerAll (b : UseBlock) (requests : List NameRequest) :
    (b.answerAll requests).2 = b.after (requests.flatMap (·.paths)) := by
  induction requests generalizing b with
  | nil => rfl
  | cons request requests ih =>
      rw [answerAll, ih, snd_answer, List.flatMap_cons, after_append]

/-- One block accounts for all answers: the one at the end. -/
theorem fst_answerAll {requests : List NameRequest} (grows : (b.answerAll requests).2.imported <+: b'.imported) :
    (b.answerAll requests).1 = requests.map (·.writtenIn b') := by
  induction requests generalizing b with
  | nil => rfl
  | cons request requests ih =>
      rw [answerAll] at grows ⊢
      have behind : (b.answer request).2.imported <+: b'.imported := by
        refine List.IsPrefix.trans ?_ grows
        rw [snd_answerAll]
        exact grows_after _ _
      rw [List.map_cons, ← ih grows, ← fst_answer behind]

/-- Every item that was asked for has its name in the block at the end. -/
theorem nameOf_of_asked {requests : List NameRequest} {path : String}
    (asked : path ∈ requests.flatMap (·.paths)) :
    (b.answerAll requests).2.nameOf path = ((b.answerAll requests).2.nameIn path, (b.answerAll requests).2) := by
  rw [snd_answerAll]
  exact nameOf_of_mem asked List.prefix_rfl

end UseBlock

namespace SchemaRegistry

/-- What the file for the serializer asks of its imports. -/
def requests (conv : Conventions) (types : TypeSet) : List NameRequest :=
  .item conv.schemaRegistry :: types.members.map .type

theorem spellAll_eq (b : UseBlock) (ts : List TypeExpr) : spellAll b ts = b.answerAll (ts.map .type) := by
  induction ts generalizing b with
  | nil => rfl
  | cons t ts ih => simp only [spellAll, List.map_cons, UseBlock.answerAll, UseBlock.answer, ih]

theorem uses_ofTypes (conv : Conventions) (types : TypeSet) :
    (ofTypes conv types).uses = (UseBlock.empty.answerAll (requests conv types)).2 := by
  simp only [requests, UseBlock.answerAll, UseBlock.answer, ofTypes, spellAll_eq]

theorem answers_ofTypes (conv : Conventions) (types : TypeSet) :
    (ofTypes conv types).registry :: (ofTypes conv types).types =
      (UseBlock.empty.answerAll (requests conv types)).1 := by
  simp only [requests, UseBlock.answerAll, UseBlock.answer, ofTypes, spellAll_eq]

/-- The registry lists every member of the set, under the names of the imports of the file. -/
theorem types_ofTypes (conv : Conventions) (types : TypeSet) :
    (ofTypes conv types).types =
      types.members.map fun t => (t.rename (ofTypes conv types).uses.nameIn).text := by
  have answers := answers_ofTypes conv types
  rw [UseBlock.fst_answerAll List.prefix_rfl, ← uses_ofTypes, requests, List.map_cons, List.map_map] at answers
  exact (List.cons.inj answers).2

end SchemaRegistry

end RouteScribe
