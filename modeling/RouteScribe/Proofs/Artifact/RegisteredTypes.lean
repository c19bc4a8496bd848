/-
Module: RouteScribe.Proofs.Artifact.RegisteredTypes
Layer: Proofs
Purpose: Which things an artifact writes alike. Under the names of its imports a type has a text of its own, as
  long as the items and placeholders in it have names of their own. Two items share a name when one is a path
  of one segment, which is always written as it stands, and the other is imported under that name; then
  types that differ only there are registered by the same text.
Imports: RouteScribe.Proofs.Artifact.ItemNames, RouteScribe.Proofs.Reachability.RouteMembers,
  RouteScribe.Proofs.TypeText.Canonical
Trusted boundary: human-reviewed spec
Main exports: TypeExpr.Word, TypeExpr.words, NamesSettled, RegistersMembers, TypeExpr.eq_of_rename_eq,
  TypeExpr.Writable.rename, names_shared_only_if_hidden
Open obligations: none
-/
import RouteScribe.Proofs.Artifact.ItemNames
import RouteScribe.Proofs.Reachability.RouteMembers
import RouteScribe.Proofs.TypeText.Canonical

namespace RouteScribe

/-!
### The specification
-/

namespace TypeExpr

/-- What stands in the text of a type besides brackets and commas. -/
inductive Word where
  | item (path : String)
  | placeholder (name : String)
  /-- The open place of a type that could not be resolved. -/
  | gap
deriving DecidableEq, Repr

/-- A word as it is written, given the names of items. -/
def Word.writtenBy (names : String → String) : Word → String
  | .item path => names path
  | .placeholder name => name
  | .gap => "_"

/-- The word at the head of a type; arrays and optional values have none. -/
def word? : TypeExpr → Option Word
  | .named path _ => some (.item path)
  | .array _ => none
  | .optional _ => none
  | .param name => some (.placeholder name)
  | .unresolved => some .gap

/-- All words in a type. -/
def words (t : TypeExpr) : List Word := t.parts.filterMap word?

end TypeExpr

/-- `NamesSettled requests answers b` says how an artifact names its items, if `b` is the block that it ends with. -/
structure NamesSettled (requests : List NameRequest) (answers : List String) (b : UseBlock) : Prop where
  /-- All answers are given under the names of this one block. -/
  answered : answers = requests.map (·.writtenIn b)
  /-- Two items have the same name only if the import of one hides the other. -/
  shared : ∀ path ∈ requests.flatMap (·.paths), ∀ path' ∈ requests.flatMap (·.paths),
    b.nameIn path = b.nameIn path' ↔ path = path' ∨ b.Hides path path' ∨ b.Hides path' path

/-- `RegistersMembers r conv set` says what the file for the serializer registers, if `set` is the set of the
    reachable types. -/
structure RegistersMembers (r : SchemaRegistry) (conv : Conventions) (set : TypeSet) : Prop where
  names : NamesSettled (SchemaRegistry.requests conv set) (r.registry :: r.types) r.uses
  /-- Every member is registered, by its text under the names of the file. -/
  types : r.types = set.members.map fun t => (t.rename r.uses.nameIn).text
  /-- Two members have the same text only if different words in them are written alike. -/
  apart : ∀ t ∈ set.members, ∀ u ∈ set.members,
    (t.rename r.uses.nameIn).text = (u.rename r.uses.nameIn).text → t = u ∨
      ∃ w ∈ t.words, ∃ w' ∈ u.words, w ≠ w' ∧ w.writtenBy r.uses.nameIn = w'.writtenBy r.uses.nameIn
  /-- These texts are what the file registers. -/
  file : r.WrittenTo (SchemaRegistry.artifact? conv set)

/-!
### Types under other names
-/

namespace TypeExpr

variable {names : String → String} {t u : TypeExpr}

theorem renameArgs_eq_map (args : List TypeExpr) : renameArgs names args = args.map (rename names) := by
  induction args with
  | nil => rfl
  | cons arg args ih => rw [renameArgs, ih, List.map_cons]

theorem mem_words_of_word {w : Word} (isHead : t.word? = some w) : w ∈ t.words :=
  List.mem_filterMap.mpr ⟨t, t.self_mem_parts, isHead⟩

theorem words_subset (part : u ∈ t.parts) : u.words ⊆ t.words := by
  intro w mem
  obtain ⟨v, inner, isWord⟩ := List.mem_filterMap.mp mem
  exact List.mem_filterMap.mpr ⟨v, parts_trans part inner, isWord⟩

/-- Whether the words of two types are written alike only if they are the same. -/
def WordsApart (names : String → String) (t u : TypeExpr) : Prop :=
  ∀ w ∈ t.words, ∀ w' ∈ u.words, w.writtenBy names = w'.writtenBy names → w = w'

theorem WordsApart.parts {t' u' : TypeExpr} (apart : WordsApart names t u) (part : t' ∈ t.parts)
    (part' : u' ∈ u.parts) : WordsApart names t' u' :=
  fun w mem w' mem' => apart w (words_subset part mem) w' (words_subset part' mem')

/-- The heads of types that become equal are written alike. -/
theorem map_word_of_rename_eq (same : t.rename names = u.rename names) :
    t.word?.map (Word.writtenBy names) = u.word?.map (Word.writtenBy names) := by
  cases t <;> cases u <;> simp_all [rename, word?, Word.writtenBy]

theorem WordsApart.word_eq (apart : WordsApart names t u) (same : t.rename names = u.rename names) :
    t.word? = u.word? := by
  have alike := map_word_of_rename_eq same
  cases head : t.word? with
  | none => simpa [head, eq_comm] using alike
  | some w =>
      cases head' : u.word? with
      | none => simp [head, head'] at alike
      | some w' =>
          simp only [head, head', Option.map_some, Option.some.injEq] at alike
          rw [apart w (mem_words_of_word head) w' (mem_words_of_word head') alike]

mutual

/-- Types whose words are told apart by the new names are told apart too. -/
theorem eq_of_rename_eq (t u : TypeExpr) (apart : WordsApart names t u)
    (same : t.rename names = u.rename names) : t = u := by
  have heads := apart.word_eq same
  cases t with
  | named path args =>
      cases u with
      | named path' args' =>
          cases heads
          simp only [rename, named.injEq, true_and] at same
          rw [eq_of_renameArgs_eq args args' (fun a mem a' mem' => apart.parts ?_ ?_) same]
          · rw [parts]
            exact List.mem_cons_of_mem _ (mem_partsOf mem a.self_mem_parts)
          · rw [parts]
            exact List.mem_cons_of_mem _ (mem_partsOf mem' a'.self_mem_parts)
      | _ => cases heads
  | array element =>
      cases u with
      | array element' =>
          simp only [rename, array.injEq] at same
          rw [eq_of_rename_eq element element' (apart.parts ?_ ?_) same]
          · exact List.mem_cons_of_mem _ element.self_mem_parts
          · exact List.mem_cons_of_mem _ element'.self_mem_parts
      | _ => cases same
  | optional inner =>
      cases u with
      | optional inner' =>
          simp only [rename, optional.injEq] at same
          rw [eq_of_rename_eq inner inner' (apart.parts ?_ ?_) same]
          · exact List.mem_cons_of_mem _ inner.self_mem_parts
          · exact List.mem_cons_of_mem _ inner'.self_mem_parts
      | _ => cases same
  | param name =>
      cases u with
      | param name' =>
          cases heads
          rfl
      | _ => cases heads
  | unresolved =>
      cases u with
      | unresolved => rfl
      | _ => cases heads

theorem eq_of_renameArgs_eq (args args' : List TypeExpr)
    (apart : ∀ a ∈ args, ∀ a' ∈ args', WordsApart names a a')
    (same : renameArgs names args = renameArgs names args') : args = args' := by
  cases args with
  | nil =>
      cases args' with
      | nil => rfl
      | cons _ _ => cases same
  | cons a args =>
      cases args' with
      | nil => cases same
      | cons a' args' =>
          simp only [renameArgs, List.cons.injEq] at same
          rw [eq_of_rename_eq a a' (apart a (by simp) a' (by simp)) same.1]
          rw [eq_of_renameArgs_eq args args' (fun b mem b' mem' => ?_) same.2]
          exact apart b (List.mem_cons_of_mem _ mem) b' (List.mem_cons_of_mem _ mem')

end

/-!
### Texts under other names

A type that can be written can also be written under the names of a block. So its text identifies it there,
too.
-/

theorem exists_lastSegment {segments : List String} (nonempty : segments ≠ []) :
    ∃ name ∈ segments, joined segments = name ∨
      ∃ front, (joined segments).toList = front ++ ':' :: ':' :: name.toList := by
  induction segments with
  | nil => exact absurd rfl nonempty
  | cons first rest ih =>
      by_cases last : rest = []
      · subst last
        exact ⟨first, List.mem_singleton_self first, Or.inl (joined_singleton first)⟩
      · obtain ⟨name, mem, ends⟩ := ih last
        refine ⟨name, List.mem_cons_of_mem _ mem, Or.inr ?_⟩
        rw [toList_joined_cons last]
        rcases ends with whole | ⟨front, chars⟩
        · exact ⟨first.toList, by rw [whole]⟩
        · exact ⟨first.toList ++ ':' :: ':' :: front, by simp [chars]⟩

theorem lastSegment_joined {segments : List String} (nonempty : segments ≠ [])
    (idents : ∀ segment ∈ segments, IsIdentifier segment) :
    IsIdentifier (ItemPath.lastSegment (joined segments)) := by
  obtain ⟨name, mem, ends⟩ := exists_lastSegment nonempty
  have ident := idents name mem
  rcases ends with whole | ⟨front, chars⟩
  · rwa [@ItemPath.lastSegment_of_notMem _ _ [] ident.colon_notMem (Or.inl whole)]
  · rwa [ItemPath.lastSegment_of_notMem ident.colon_notMem (Or.inr chars)]

/-- Whether a path has the form of another type depends on the number of its arguments only. -/
theorem denoted_map {segments : List String} {args : List TypeExpr} (f : TypeExpr → TypeExpr)
    (denotes : denoted segments args = .named (joined segments) args) :
    denoted segments (args.map f) = .named (joined segments) (args.map f) := by
  match args with
  | [] => rfl
  | _ :: _ :: _ => rfl
  | [t] =>
      rw [denoted] at denotes
      split at denotes
      · cases denotes
      · split at denotes
        · cases denotes
        · rename_i notArray notOptional
          rw [List.map_cons, List.map_nil, denoted, if_neg notArray, if_neg notOptional]

theorem denoted_of_notMem_reserved {name : String} (args : List TypeExpr)
    (free : name ∉ UseBlock.reservedNames) : denoted [name] args = .named (joined [name]) args := by
  have notArray : [name] ∉ arrayPaths := by
    intro mem
    simp only [arrayPaths, List.mem_cons, List.cons.injEq, and_true, reduceCtorEq, and_false, List.not_mem_nil,
      or_false] at mem
    exact free (mem ▸ by decide)
  have notOptional : [name] ∉ optionalPaths := by
    intro mem
    simp only [optionalPaths, List.mem_cons, List.cons.injEq, and_true, reduceCtorEq, and_false, List.not_mem_nil,
      or_false] at mem
    exact free (mem ▸ by decide)
  cases args with
  | nil => rfl
  | cons t rest =>
      cases rest with
      | nil => rw [denoted, if_neg notArray, if_neg notOptional]
      | cons _ _ => rfl

theorem Writable.ofIdentifier {name : String} (ident : IsIdentifier name) : Writable (.named name []) := by
  have single := @Writable.named [name] [] (List.cons_ne_nil name []) (by simpa using ident) rfl (by simp)
  rwa [joined_singleton] at single

theorem isIdentifier_gap : IsIdentifier "_" := by
  have chars : "_".toList = ['_'] := rfl
  constructor
  · decide
  · intro c mem
    rw [chars, List.mem_singleton] at mem
    rw [mem]
    decide

/-- A type that can be written can be written under the names of a block. -/
theorem Writable.rename (b : UseBlock) (writable : Writable t) : Writable (t.rename b.nameIn) := by
  induction writable with
  | unresolved => exact .ofIdentifier isIdentifier_gap
  | unit =>
      have plain : b.nameIn "()" = "()" := by
        rw [UseBlock.nameIn, UseBlock.nameOf_plain]
        rintro ⟨qualified, -⟩
        revert qualified
        decide
      change Writable (.named (b.nameIn "()") [])
      rw [plain]
      exact .unit
  | param ident => exact .ofIdentifier ident
  | array _ ih => exact .array ih
  | optional _ ih => exact .optional ih
  | @named segments args nonempty idents denotes _ ih =>
      rw [TypeExpr.rename, renameArgs_eq_map]
      have each : ∀ arg ∈ args.map (TypeExpr.rename b.nameIn), Writable arg := by
        simpa using ih
      rcases b.nameIn_cases (joined segments) with whole | ⟨importable, last⟩
      · rw [whole]
        exact .named nonempty idents (denoted_map _ denotes) each
      · rw [last, ← joined_singleton (ItemPath.lastSegment _)]
        refine .named (List.cons_ne_nil _ _) ?_ (denoted_of_notMem_reserved _ importable.2) each
        simpa using lastSegment_joined nonempty idents

end TypeExpr

/-!
### The registry
-/

theorem namesSettled_answerAll (requests : List NameRequest) :
    NamesSettled requests (UseBlock.empty.answerAll requests).1 (UseBlock.empty.answerAll requests).2 where
  answered := UseBlock.fst_answerAll List.prefix_rfl
  shared path asked path' asked' := by
    refine UseBlock.nameIn_eq_iff ?_ (UseBlock.nameOf_of_asked asked) (UseBlock.nameOf_of_asked asked')
    rw [UseBlock.snd_answerAll]
    exact UseBlock.tidy_after _

theorem registersMembers_ofTypes {set : TypeSet} (conv : Conventions) (all : set.AllWritable) :
    RegistersMembers (SchemaRegistry.ofTypes conv set) conv set where
  names := by
    rw [SchemaRegistry.answers_ofTypes, SchemaRegistry.uses_ofTypes]
    exact namesSettled_answerAll _
  types := SchemaRegistry.types_ofTypes conv set
  apart t isMember u isMember' same := by
    have renamed := (((all t isMember).rename _).text_inj ((all u isMember').rename _)).mp same
    by_cases apart : TypeExpr.WordsApart (SchemaRegistry.ofTypes conv set).uses.nameIn t u
    · exact Or.inl (TypeExpr.eq_of_rename_eq t u apart renamed)
    · rw [TypeExpr.WordsApart] at apart
      push Not at apart
      obtain ⟨w, mem, w', mem', alike, differ⟩ := apart
      exact Or.inr ⟨w, mem, w', mem', differ, alike⟩
  file := SchemaRegistry.writtenTo_artifact? conv set

/-- Whatever an artifact asks of its imports, two of its items have the same name only if one is a path of one
    segment that the import of the other hides; and the file for the serializer of a program that was loaded
    has the same text for two reachable types only if different words in them are written alike. -/
theorem names_shared_only_if_hidden (requests : List NameRequest) {p : Program} (o : Options) (loaded : p.Loaded) :
    NamesSettled requests (UseBlock.empty.answerAll requests).1 (UseBlock.empty.answerAll requests).2 ∧
      RegistersMembers (SchemaRegistry.ofTypes o.conventions (generate p o).types) o.conventions
        (generate p o).types := by
  constructor
  · exact namesSettled_answerAll requests
  · exact registersMembers_ofTypes o.conventions (writable_types_generate loaded)

/-- Two items and a type with both of them, and the reachable types of the dump. -/
theorem names_shared_only_if_hidden_page :
    let requests : List NameRequest := [.item "P", .type (.named "M" [.named "P" [], .named "p::P" []])]
    pageProgram.Loaded ∧
      NamesSettled requests (UseBlock.empty.answerAll requests).1 (UseBlock.empty.answerAll requests).2 ∧
      RegistersMembers (SchemaRegistry.ofTypes pageOptions.conventions (generate pageProgram pageOptions).types)
        pageOptions.conventions (generate pageProgram pageOptions).types :=
  ⟨pageProgram_loaded, names_shared_only_if_hidden _ pageOptions pageProgram_loaded⟩

/-- An item is hidden as soon as another one of the same last segment is imported: the two get one name, and the
    file registers two types by one text. -/
theorem bare_name_hidden :
    (UseBlock.empty.answerAll [.item "P", .item "p::P"]).1 = ["P", "P"] ∧
      pageProgram.Loaded ∧
      (generate pageProgram pageOptions).types.members =
        [.named "P" [], .named "W" [.named "u8" []], .named "p::P" [], .named "p::P" [.param "T"]] ∧
      (SchemaRegistry.ofTypes pageOptions.conventions (generate pageProgram pageOptions).types).types =
        ["P", "W<u8>", "P", "P<T>"] := by
  rw [types_pageProgram]
  exact ⟨by decide +kernel, pageProgram_loaded, rfl, by decide +kernel⟩

end RouteScribe
